import RmwMicroxrcedds.Proof.Queues
import RmwMicroxrcedds.Spec.ExactlyOnce

/-!
# The buffers of an entity are a bounded queue

The specification is `Fifo.replay`: the receptions and takes of an entity, replayed on a queue of the
depth and the policy its profile asks for. The buffers of the entity refine it, message by message in
the order of reception, in the runs with a clock that increases from one reception to the next. The
deadlines have to be representable, for the cleaning adds the lifespan to the timestamp in 64 bits
and takes a message whose deadline overflows for an expired one.
-/

namespace RmwMicroxrcedds
set_option autoImplicit false

variable {cfg : Config}

/-- The bounded queue a profile asks for. -/
def RmwQosProfile.bound (qos : RmwQosProfile) : Fifo.Bound where
  depth := qos.depth
  policy := if qos.history = .keepAll then .refuse else .evict

/-- What a moment does to the queue of an entity. A reception offers the message, named by the number
of its callback. -/
def Moment.op? (cfg : Config) (o : Owner) (m : Moment) : Option (Fifo.Op Nat) :=
  match m.act with
  | .callback session ev =>
    if addressee cfg session ev m.world = some o then some (.push m.ghost.rx) else none
  | .take p _ _ => if p = some o then some .pop else none
  | _ => none

/-- The buffers after the action of a moment. -/
def Moment.bufAfter (cfg : Config) (m : Moment) : Buffers :=
  match m.act with
  | .callback session ev => (callback cfg session ev m.world).1.buf
  | .take _ i _ | .expire i | .flush i => m.world.buf.putMemory i
  | _ => m.world.buf

/-! ## The runs -/

/-- The clock readings at receptions are strictly increasing. -/
def Increasing (cfg : Config) (trace : List Moment) : Prop :=
  (trace.filterMap (Moment.stamp? cfg)).Pairwise (· > ·)

instance (cfg : Config) (trace : List Moment) : Decidable (Increasing cfg trace) :=
  inferInstanceAs (Decidable (List.Pairwise _ _))

/-- A reception for the entity: under its profile, of a sample that can be read, with a free slot
where the depth allows one more message. -/
def Served (cfg : Config) (o : Owner) (qos : RmwQosProfile) (m : Moment) : Prop :=
  ∀ c ∈ m.act.callback?, addressee cfg c.1 c.2 m.world = some o →
    m.world.ent.qos o = qos ∧ c.2.length ≤ c.2.bytes.length ∧
      (Buffers.Room qos (m.world.buf.ofOwner o).length →
        m.world.buf.queue.length < m.world.buf.staticBuffer.memory.size)

instance (cfg : Config) (o : Owner) (qos : RmwQosProfile) (m : Moment) :
    Decidable (Served cfg o qos m) :=
  inferInstanceAs (Decidable (∀ c ∈ m.act.callback?, _ → _ ∧ _ ∧ _))

/-- The lifespan of the message in a buffer, in nanoseconds. -/
def World.lifespan (w : World) (i : Nat) : Int :=
  rmwTimeTotalNsec (effectiveLifespan w.ent (w.buf.slot i))

/-- No message of the entity is past its lifespan. -/
def Timely (o : Owner) (m : Moment) : Prop :=
  ∀ i ∈ m.world.buf.ofOwner o,
    rmwUrosEpochNanos m.world ≤ (m.world.buf.slot i).timestamp + m.world.lifespan i

instance (o : Owner) (m : Moment) : Decidable (Timely o m) :=
  inferInstanceAs (Decidable (∀ i ∈ m.world.buf.ofOwner o, _))

/-- No message of the entity comes from the future, and the deadlines can be represented. -/
def Representable (o : Owner) (m : Moment) : Prop :=
  ∀ i ∈ m.world.buf.ofOwner o, (m.world.buf.slot i).timestamp ≤ rmwUrosEpochNanos m.world ∧
    (m.world.buf.slot i).timestamp + m.world.lifespan i ≤ Machine64.int64Max

instance (o : Owner) (m : Moment) : Decidable (Representable o m) :=
  inferInstanceAs (Decidable (∀ i ∈ m.world.buf.ofOwner o, _))

/-- What holds at every moment of the runs considered. -/
structure Orderly (cfg : Config) (o : Owner) (qos : RmwQosProfile) (trace : List Moment) : Prop where
  increasing : Increasing cfg trace
  served : ∀ m ∈ trace, Served cfg o qos m
  timely : ∀ m ∈ trace, Timely o m
  representable : ∀ m ∈ trace, Representable o m
  running : ∀ m ∈ trace, m.act.flush? = none

theorem Orderly.suffix {o : Owner} {qos : RmwQosProfile} {l l' : List Moment} (h : l <:+ l')
    (orderly : Orderly cfg o qos l') : Orderly cfg o qos l where
  increasing := orderly.increasing.sublist (h.sublist.filterMap _)
  served := forall_mem_of_suffix h orderly.served
  timely := forall_mem_of_suffix h orderly.timely
  representable := forall_mem_of_suffix h orderly.representable
  running := forall_mem_of_suffix h orderly.running

/-- With increasing readings no two messages have one timestamp. -/
theorem Arranged.increasing {s t : State} (h : Arranged cfg s) (step : Atomic cfg s t)
    (increasing : Increasing cfg t.trace) : Arranged cfg t := by
  refine h.atomic step (increasing.imp le_of_lt) ?_
  intro m e stamped
  obtain ⟨now, hnow⟩ := Option.ne_none_iff_exists'.1 stamped
  rw [Increasing, e, List.filterMap_cons_some hnow, List.pairwise_cons] at increasing
  have now_eq : now = rmwUrosEpochNanos m.world := by
    rw [Moment.stamp?, Option.bind_eq_some_iff] at hnow
    obtain ⟨c, -, hc⟩ := hnow
    obtain ⟨i, -, e⟩ := Option.map_eq_some_iff.1 hc
    exact e.symm
  have world := step.2.2.world_of_recorded e
  have earlier : ∀ i ∈ m.world.buf.queue,
      (m.world.buf.slot i).timestamp ≠ rmwUrosEpochNanos m.world := by
    intro i hi tied
    rw [world] at hi
    have lt := increasing.1 _ (h.stamped i hi)
    rw [world] at tied now_eq
    have stamp : (s.slot i).timestamp = rmwUrosEpochNanos s.w := tied
    omega
  intro c hc o meant read
  constructor
  · intro room space i hi
    exact earlier i (Buffers.mem_ofOwner.1 hi).1
  · intro full history
    refine (List.pairwise_of_forall_mem_list ?_)
    intro i hi j hj tied
    exact absurd tied (earlier j (Buffers.mem_ofOwner.1 hj).1)

/-- A callback changes the buffers of its addressee only, a take or a cleaning those of the owner of
the released buffer. -/
theorem sameQueue_of_op {s : State} {m : Moment} {o p : Owner} (wf : Wf cfg s) {t : State}
    (recorded : Recorded cfg s t m) (world : m.world = s.w) (op : m.op? cfg o ≠ none) (ne : p ≠ o) :
    Buffers.SameQueue p m.world.buf (m.bufAfter cfg) := by
  rw [Moment.op?] at op
  rw [Moment.bufAfter, world]
  rw [world] at op
  rw [Recorded] at recorded
  cases act : m.act with
  | callback session ev =>
    obtain ⟨-, -, -, delivery⟩ := callback_spec (w := s.w) cfg session ev wf.staticBuffer
    refine delivery.sameQueue wf.staticBuffer ?_
    rw [act] at op
    intro meant
    simp [meant, ne] at op
  | take q i deserialized =>
    rw [act] at op recorded
    obtain ⟨-, found, -⟩ := recorded
    obtain ⟨queued, owner⟩ := Buffers.Ok.find_mem wf.staticBuffer found
    refine Buffers.Ok.putMemory_sameQueue wf.staticBuffer queued ?_
    intro own
    have q_eq : q = some p := owner.symm.trans own
    simp [q_eq, ne] at op
  | _ =>
    rw [act] at op
    exact absurd rfl op

/-! ## The refinement -/

/-- The operations on the queue of an entity so far, the latest first. -/
def State.log (cfg : Config) (o : Owner) (s : State) : List (Fifo.Op Nat) :=
  s.trace.filterMap (Moment.op? cfg o)

/-- The messages queued are those of the replayed queue, which is in the order of reception. -/
structure Replayed (cfg : Config) (o : Owner) (b : Fifo.Bound) (s : State) : Prop where
  arranged : Arranged cfg s
  perm : (s.numbers o).Perm (Fifo.replay b (s.log cfg o))
  sorted : (Fifo.replay b (s.log cfg o)).Pairwise (· < ·)

section Replay

variable {o : Owner} {b : Fifo.Bound} {qos : RmwQosProfile} {s t : State}

theorem Replayed.length (h : Replayed cfg o b s) :
    (Fifo.replay b (s.log cfg o)).length = (s.w.buf.ofOwner o).length :=
  h.perm.length_eq.symm.trans (s.length_numbers o)

theorem Replayed.received (h : Replayed cfg o b s) :
    s.received o = Fifo.replay b (s.log cfg o) :=
  Fifo.insertionSort_eq_of_perm h.sorted h.perm

/-- Actions that are not about the entity. -/
theorem Replayed.keep (h : Replayed cfg o b s) (arranged : Arranged cfg t)
    (numbers : t.numbers o = s.numbers o) (log : t.log cfg o = s.log cfg o) :
    Replayed cfg o b t where
  arranged := arranged
  perm := by
    rw [numbers, log]
    exact h.perm
  sorted := by
    rw [log]
    exact h.sorted

/-- All queued messages are earlier than the next. -/
theorem Replayed.earlier (h : Replayed cfg o b s) :
    ∀ n ∈ Fifo.replay b (s.log cfg o), n < s.ghost.rx := by
  intro n hn
  obtain ⟨i, hi, rfl⟩ := List.mem_map.1 (h.perm.mem_iff.2 hn)
  obtain ⟨src, holds⟩ := h.arranged.numbered.sourced.holds i (Buffers.mem_ofOwner.1 hi).1
  rw [holds.number]
  exact holds.earlier

/-- The oldest buffer holds the head of the replayed queue. -/
theorem Replayed.head (wf : Wf cfg s) (h : Replayed cfg o b s) {i : Nat} {front back : List Nat}
    (oldest : s.w.buf.Oldest o i front back) :
    Fifo.replay b (s.log cfg o) = s.ghost.number i :: (Fifo.replay b (s.log cfg o)).tail ∧
      (Fifo.replay b (s.log cfg o)).tail.Perm (((s.w.buf.ofOwner o).erase i).map s.ghost.number) := by
  have own : i ∈ s.w.buf.ofOwner o := Buffers.mem_ofOwner.2 ⟨oldest.mem, oldest.relevant⟩
  have nodup : (s.w.buf.ofOwner o).Nodup := (Slots.Ok.nodup wf.staticBuffer).filter _
  apply Fifo.head_of_perm h.sorted
  · exact h.perm.symm.trans ((List.perm_cons_erase own).map s.ghost.number)
  · intro n hn
    obtain ⟨j, hj, rfl⟩ := List.mem_map.1 hn
    rw [nodup.mem_erase_iff] at hj
    exact h.arranged.first oldest hj.2 hj.1

/-- A reception for the entity pushes its number. -/
theorem Replayed.push (wf : Wf cfg s) (h : Replayed cfg o qos.bound s) (arranged : Arranged cfg t)
    {session : Nat} {ev : SessionEvent} (raised : Raised cfg s t session ev)
    (meant : addressee cfg session ev s.w = some o)
    (served : Served cfg o qos ⟨s.call, .callback session ev, s.w, s.ghost⟩)
    (fits : Representable o ⟨s.call, .callback session ev, s.w, s.ghost⟩) :
    Replayed cfg o qos.bound t := by
  obtain ⟨profile, read, space⟩ := served (session, ev) rfl meant
  have log : t.log cfg o = .push s.ghost.rx :: s.log cfg o := by
    rw [State.log, raised.trace]
    apply List.filterMap_cons_some
    simp [Moment.op?, meant]
  set q := Fifo.replay qos.bound (s.log cfg o) with hq
  have replay : Fifo.replay qos.bound (t.log cfg o) = Fifo.push qos.bound q s.ghost.rx := by
    rw [log]
    rfl
  have length : q.length = (s.w.buf.ofOwner o).length := h.length
  have room : Buffers.Room (s.w.ent.qos o) (s.w.buf.ofOwner o).length ↔ qos.bound.Room q.length := by
    rw [show s.w.ent.qos o = qos from profile, length]
    rfl
  constructor
  · exact arranged
  · rw [replay]
    rcases raised.numbers_addressee wf meant read with ⟨free, numbers⟩ | ⟨full, history, numbers⟩ |
        ⟨why, numbers⟩
    · rw [numbers, Fifo.push_of_room (room.1 free)]
      exact (h.perm.cons _).trans (List.perm_append_singleton _ _).symm
    · have policy : qos.bound.policy = .evict := by
        rw [RmwQosProfile.bound, if_neg]
        rwa [← show s.w.ent.qos o = qos from profile]
      obtain ⟨i, front, back, oldest, perm⟩ := numbers
      rw [Fifo.push_of_evict (mt room.2 full) policy]
      refine perm.trans ?_
      refine List.Perm.trans ?_ (List.perm_append_singleton _ _).symm
      exact (h.head wf oldest).2.symm.cons _
    · rw [numbers]
      cases why with
      | exhausted free all =>
        have lt := space ((show s.w.ent.qos o = qos from profile) ▸ free)
        exact absurd all (not_le.2 lt)
      | full full history =>
        have policy : qos.bound.policy = .refuse := by
          rw [RmwQosProfile.bound, if_pos]
          rwa [← show s.w.ent.qos o = qos from profile]
        rw [Fifo.push_of_refuse (mt room.2 full) policy]
        exact h.perm
      | unreadable full late =>
        -- a queue that is full holds a message, the deadline of which is above its timestamp
        have pos : 0 < (s.w.buf.ofOwner o).length := by
          simp only [Buffers.Room, not_or, not_lt] at full
          omega
        obtain ⟨i, hi⟩ := List.exists_mem_of_length_pos pos
        have deadline := (fits i hi).2
        have lifespan := effectiveLifespan_pos s.w.ent (s.w.buf.slot i)
        have stamp := late i hi
        simp only [World.lifespan] at deadline
        omega
  · rw [replay]
    exact Fifo.pairwise_push h.sorted h.earlier

theorem log_take (i : Nat) (deserialized : Bool) (f : Buffers → Buffers) :
    ((s.record (.take (some o) i deserialized)).mapBuf f).log cfg o = .pop :: s.log cfg o := by
  apply List.filterMap_cons_some
  simp [Moment.op?]

/-- A take on the entity pops. -/
theorem Replayed.pop (wf : Wf cfg s) (h : Replayed cfg o b s) (arranged : Arranged cfg t) {i : Nat}
    {deserialized : Bool} (step : t = (s.record (.take (some o) i deserialized)).mapBuf (·.putMemory i))
    (found : rmwUxrceFindStaticInputBufferByOwner s.w.buf (some o) = some i) : Replayed cfg o b t := by
  obtain ⟨front, back, oldest, -⟩ := Buffers.Ok.find_some wf.staticBuffer found
  have replay : Fifo.replay b (t.log cfg o) = (Fifo.replay b (s.log cfg o)).tail := by
    rw [step, log_take]
    rfl
  have numbers : t.numbers o = ((s.w.buf.ofOwner o).erase i).map s.ghost.number := by
    rw [step, State.numbers]
    exact congrArg _ (Buffers.Ok.putMemory_ofOwner wf.staticBuffer oldest.mem)
  constructor
  · exact arranged
  · rw [replay, numbers]
    exact (h.head wf oldest).2.symm
  · rw [replay]
    exact h.sorted.sublist (List.tail_sublist _)

/-- A message that is within its lifespan survives the cleanings. -/
theorem Arranged.not_expired (h : Arranged cfg s) {i : Nat} (hi : i ∈ s.w.buf.ofOwner o) (act : Act)
    (timely : Timely o ⟨s.call, act, s.w, s.ghost⟩)
    (fits : Representable o ⟨s.call, act, s.w, s.ghost⟩) :
    ¬ expired s.w.ent (rmwUrosEpochNanos s.w) (s.slot i) := by
  obtain ⟨past, deadline⟩ := fits i hi
  refine RmwMicroxrcedds.not_expired ?_ past (timely i hi) deadline
  obtain ⟨m, -, stamp⟩ := List.mem_filterMap.1 (h.stamped i (Buffers.mem_ofOwner.1 hi).1)
  rw [Moment.stamp?, Option.bind_eq_some_iff] at stamp
  obtain ⟨c, -, hc⟩ := stamp
  obtain ⟨j, -, e⟩ := Option.map_eq_some_iff.1 hc
  rw [← e]
  exact le_rmwUrosEpochNanos _

/-- A release of a buffer of another entity, or of none. -/
theorem numbers_putMemory (wf : Wf cfg s) {i : Nat} (queued : i ∈ s.queue)
    (other : (s.slot i).owner ≠ some o) (act : Act) :
    ((s.record act).mapBuf (·.putMemory i)).numbers o = s.numbers o :=
  numbers_of_source (Buffers.Ok.putMemory_sameQueue wf.staticBuffer queued other).ofOwner fun _ _ => rfl

/-- **Every atomic action keeps the refinement.** -/
theorem Replayed.atomic (h : Replayed cfg o qos.bound s) (step : Atomic cfg s t)
    (orderly : Orderly cfg o qos t.trace) : Replayed cfg o qos.bound t := by
  have arranged := h.arranged.increasing step orderly.increasing
  obtain ⟨wf, -, micro⟩ := step
  have same : SameBuffers s t → t.log cfg o = s.log cfg o → Replayed cfg o qos.bound t := by
    intro buffers log
    have queue : t.w.buf.queue = s.w.buf.queue := buffers.queue
    have slot : t.w.buf.slot = s.w.buf.slot := buffers.slot
    refine h.keep arranged (numbers_of_source ?_ fun i _ => congrFun buffers.source i) log
    rw [Buffers.ofOwner, queue, slot, Buffers.ofOwner]
  have silent : ∀ {act : Act} {m : Moment}, m.act = act → act.callback? = none → act.take? = none →
      m.op? cfg o = none := by
    intro act m e callback take
    rw [Moment.op?, e]
    cases act with
    | callback => simp [Act.callback?] at callback
    | take => simp [Act.take?] at take
    | _ => rfl
  cases micro with
  | quiet buffers owners trace => exact same buffers (congrArg (List.filterMap _) trace)
  | note act neutral =>
    refine same ⟨rfl, rfl, rfl, rfl, rfl, rfl⟩ (List.filterMap_cons_none ?_)
    cases act <;> first | exact silent rfl rfl rfl | exact neutral.elim
  | acquire p buffers dead alive ghost trace => exact same buffers (congrArg (List.filterMap _) trace)
  | assign p => exact same ⟨rfl, rfl, rfl, rfl, rfl, rfl⟩ rfl
  | release p buffers live alive ghost trace =>
    refine same buffers ?_
    rw [State.log, trace]
    exact List.filterMap_cons_none (silent rfl rfl rfl)
  | opened c ok unused used =>
    exact same ⟨rfl, rfl, rfl, rfl, rfl, rfl⟩ (List.filterMap_cons_none (silent rfl rfl rfl))
  | tick d => exact h.keep arranged rfl rfl
  | callback session ev route =>
    have raised := raise_raised wf session route
    have mem : (⟨s.call, .callback session ev, s.w, s.ghost⟩ : Moment) ∈
        (raise cfg session s ev).trace := by
      rw [raised.trace]
      exact List.mem_cons_self
    by_cases meant : addressee cfg session ev s.w = some o
    · exact h.push wf arranged raised meant (orderly.served _ mem) (orderly.representable _ mem)
    · refine h.keep arranged (raised.numbers_other wf rfl route meant) ?_
      rw [State.log, raised.trace]
      exact List.filterMap_cons_none (by simp [Moment.op?, meant])
  | expire i queued late =>
    refine h.keep arranged ?_ (List.filterMap_cons_none (silent rfl rfl rfl))
    refine numbers_putMemory wf queued ?_ _
    intro owner
    refine h.arranged.not_expired (Buffers.mem_ofOwner.2 ⟨queued, owner⟩) (.expire i) ?_ ?_ late
    · exact orderly.timely _ List.mem_cons_self
    · exact orderly.representable _ List.mem_cons_self
  | take p i deserialized found call =>
    by_cases own : p = some o
    · subst own
      exact h.pop wf arranged rfl found
    · obtain ⟨queued, owner⟩ := Buffers.Ok.find_mem wf.staticBuffer found
      refine h.keep arranged ?_ (List.filterMap_cons_none (by simp [Moment.op?, own]))
      exact numbers_putMemory wf queued (fun e => own (owner.symm.trans e)) _
  | flush i queued call => cases orderly.running _ List.mem_cons_self
  | enter => exact h.keep arranged rfl rfl

theorem replayed_zero (cfg : Config) (o : Owner) (b : Fifo.Bound) : Replayed cfg o b State.zero where
  arranged := arranged_zero cfg
  perm := List.Perm.nil
  sorted := List.Pairwise.nil

end Replay

/-! ## Takes -/

/-- The take of an entity in use, on its buffers. -/
theorem call_take {s : State} (wf : Wf cfg s) {o : Owner} (alive : s.Alive o)
    {cdrDeserialize : List UInt8 → Bool} {i : Step} (e : i.call = o.takeWith cdrDeserialize) :
    ∃ header, Identifies (some o) header ∧
      let r := takeOldest (some o) header cdrDeserialize (s.enter i)
      call cfg s i = (.took r.1, r.2) := by
  have run : ∀ {β : Type} [Element β] {k : Kind β} {j : Nat} {header : StaticInputBuffer → TakeHeader},
      Handles (k.slots s.w.ent) → j ∈ (k.slots s.w.ent).elements → k.owner j = some o →
      i.call.defined s.w.ent = true →
      perform cfg i.call = (do return .took (← takeFrom k j header cdrDeserialize)) →
        let r := takeOldest (some o) header cdrDeserialize (s.enter i)
        call cfg s i = (.took r.1, r.2) := by
    intro β _ k j header handles hj owner defined performed r
    have taken := takeFrom_run (s := s.enter i) (k := k) handles hj owner header cdrDeserialize
    rw [call, if_pos defined, performed]
    simp only [r, ← taken]
    rfl
  cases o with
  | subscription j =>
    exact ⟨fun _ => .untouched, identifies_subscription j, run (k := .subscription)
      wf.subscriptionHandles alive rfl (by rw [e]; rfl) (by rw [e]; rfl)⟩
  | service j =>
    exact ⟨requestHeader, identifies_service j, run (k := .service) wf.serviceHandles alive
      rfl (by rw [e]; rfl) (by rw [e]; rfl)⟩
  | client j =>
    exact ⟨responseHeader, identifies_client j, run (k := .client) wf.clientHandles alive
      rfl (by rw [e]; rfl) (by rw [e]; rfl)⟩

/-- The take with the given reply removes and returns the head of the queue. -/
def TakesHead (o : Owner) (s t : State) (reply : Reply) : Prop :=
  match s.received o with
  | [] => reply = .took { ret := .error, taken := false, payload := none, header := .untouched } ∧
      t.received o = []
  | n :: rest => ∃ r c session ev, reply = .took r ∧ c ∈ s.trace ∧ c.act = .callback session ev ∧
      c.ghost.rx = n ∧ Presents r ev ∧ t.received o = rest

/-- **A take removes and returns the head.** -/
theorem takesHead_of_replayed {o : Owner} {qos : RmwQosProfile} {s : State} (ready : Ready cfg s)
    (h : Replayed cfg o qos.bound s) (alive : s.Alive o) {cdrDeserialize : List UInt8 → Bool}
    {i : Step} (e : i.call = o.takeWith cdrDeserialize)
    (orderly : Orderly cfg o qos (call cfg s i).2.trace) :
    TakesHead o s (call cfg s i).2 (call cfg s i).1 := by
  obtain ⟨header, identifies, performed⟩ := call_take ready.wf alive e
  have wf : Wf cfg (s.enter i) := { ready.wf with }
  obtain ⟨path, wf', cleaned⟩ := clean_spec wf
  have presents := takeOldest_presents wf
    (h.arranged.numbered.atomic ⟨ready.wf, wf, .enter i.call.kind i.agent ready.done⟩)
    cdrDeserialize identifies
  rw [performed] at orderly ⊢
  dsimp only at orderly ⊢ presents
  set c := (rmwUxrceCleanExpiredStaticInputBuffer (s.enter i)).2 with hc
  -- the cleaning finds nothing to release
  have replayed : c.trace <:+ (takeOldest (some o) header cdrDeserialize (s.enter i)).2.trace →
      Replayed cfg o qos.bound c := by
    intro suffix
    refine Path.keeps_while (G := Orderly cfg o qos) Orderly.suffix (fun s t step all k => k.atomic step all)
      (.head ⟨ready.wf, wf, .enter i.call.kind i.agent ready.done⟩ path) h (orderly.suffix suffix)
  have log : c.log cfg o = s.log cfg o := clean_trace (fun m j act => by rw [Moment.op?, act]) _
  have queue : ∀ {k : Replayed cfg o qos.bound c}, c.received o = s.received o := by
    intro k
    rw [k.received, log, h.received]
  rw [TakesHead]
  rcases takeOldest_run wf (some o) header cdrDeserialize with ⟨none, run⟩ | ⟨j, found, queued, own, run⟩
  · rw [run] at replayed ⊢
    have k := replayed (List.suffix_refl _)
    have empty : c.w.buf.ofOwner o = [] := by
      refine List.eq_nil_iff_forall_not_mem.2 fun j hj => ?_
      have late := (Buffers.Ok.find_none wf'.staticBuffer).1 none j hj
      have kept := (Buffers.mem_ofOwner.1 hj).1
      rw [show c.w.buf.queue = c.queue from rfl, cleaned.queue, List.mem_filter] at kept
      have stamp := timestamp_lt_of_unexpired (by simpa using kept.2)
      rw [← cleaned.slot] at stamp
      exact absurd stamp (not_lt.2 late)
    have nil : c.received o = [] := by
      rw [State.received, State.numbers, empty]
      rfl
    rw [← queue (k := k), nil]
    exact ⟨rfl, rfl⟩
  · obtain ⟨m, hm, session, ev, act, presented, -, j', found', -, number⟩ := presents (by rw [run]; simp)
    obtain rfl := Option.some.inj (found'.symm.trans found)
    rw [run] at orderly replayed presented ⊢
    have k := replayed (List.suffix_cons _ _)
    obtain ⟨front, back, oldest, -⟩ := Buffers.Ok.find_some wf'.staticBuffer found
    have kind : c.call = .take := by
      rw [cleaned.call]
      calc i.call.kind = (o.takeWith cdrDeserialize).kind := by rw [e]
        _ = .take := by cases o <;> rfl
    have wf'' : ∀ rv, Wf cfg ((c.record (.take (some o) j' rv)).mapBuf (·.putMemory j')) := fun rv =>
      (wf'.of_ent rfl rfl wf'.staticBuffer : Wf cfg (c.record (.take (some o) j' rv))).putBuffer queued
    have after := k.atomic ⟨wf', wf'' _, .take (some o) j' _ found kind⟩ orderly
    have first : c.ghost.number j' = m.ghost.rx := by
      rw [Ghost.number, number]
      rfl
    have head : s.received o = m.ghost.rx :: (s.received o).tail := by
      rw [← queue (k := k), k.received, ← first]
      exact (k.head wf' oldest).1
    rw [head]
    refine ⟨_, m, session, ev, rfl, hm, act, rfl, presented, ?_⟩
    rw [after.received, log_take, ← queue (k := k), k.received]
    rfl

/-! ## Runs -/

end RmwMicroxrcedds
