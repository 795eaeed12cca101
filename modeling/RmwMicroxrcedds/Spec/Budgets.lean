import Mathlib.Algebra.Order.BigOperators.Group.List
import Mathlib.Algebra.Order.Ring.Nat
import RmwMicroxrcedds.Proof.Lives
import RmwMicroxrcedds.Spec.Lifetimes
import RmwMicroxrcedds.Spec.MemoryPressure

/-!
# How large the pool of buffers has to be

All entities share the static buffers, so one that is below its depth can find the pool taken by others. It never
does in a run in which the depths of the entities in use are bounds that the pool has room for together, and no
entity is released with messages buffered.
-/

namespace RmwMicroxrcedds
set_option autoImplicit false

variable {cfg : Config}

/-- The entities in use that own buffers. -/
def Entities.inUse (e : Entities) : List Owner :=
  e.subscription.elements.map .subscription ++ e.service.elements.map .service ++ e.client.elements.map .client

@[simp] theorem Entities.mem_inUse {e : Entities} {o : Owner} : o ∈ e.inUse ↔ e.Alive o := by
  cases o <;> simp [inUse, Alive]

/-- The depths of the entities in use are bounds, and the pool has room for all of them together. -/
def World.Provides (w : World) : Prop :=
  (∀ o ∈ w.ent.inUse, 0 < (w.ent.qos o).depth) ∧
    (w.ent.inUse.map fun o => (w.ent.qos o).depth).sum ≤ w.buf.staticBuffer.memory.size

instance (w : World) : Decidable w.Provides := inferInstanceAs (Decidable (_ ∧ _))

/-- The pool is large enough at every reception. -/
def Provided (m : Moment) : Prop := m.act.callback? ≠ none → m.world.Provides

instance (m : Moment) : Decidable (Provided m) := inferInstanceAs (Decidable (_ → _))

/-- No entity holds more messages than its depth says. -/
def WithinDepths (w : World) : Prop :=
  ∀ o ∈ w.ent.inUse, (w.buf.ofOwner o).length ≤ (w.ent.qos o).depth

instance (w : World) : Decidable (WithinDepths w) := inferInstanceAs (Decidable (∀ o ∈ _, _))

/-- A sample that can be read is refused only at the depth of its own entity, when its history is KEEP_ALL or
none of its messages can be found as the oldest. -/
def RefusedByOwner (cfg : Config) (m : Moment) : Prop :=
  ∀ c ∈ m.act.callback?, ∀ o ∈ addressee cfg c.1 c.2 m.world, c.2.length ≤ c.2.bytes.length →
    (callback cfg c.1 c.2 m.world).2 = none →
      (m.world.buf.ofOwner o).length = (m.world.ent.qos o).depth ∧
        ((m.world.ent.qos o).history = .keepAll ∨
          ∀ i ∈ m.world.buf.ofOwner o, Machine64.int64Max ≤ (m.world.buf.slot i).timestamp)

/-! ## Counting -/

/-- A list is no longer than its parts together. -/
theorem length_le_sum_parts {α β : Type} [DecidableEq β] (key : α → Option β) (keys : List β) (l : List α)
    (all : ∀ a ∈ l, ∃ b ∈ keys, key a = some b) :
    l.length ≤ (keys.map fun b => (l.filter fun a => key a = some b).length).sum := by
  induction l with
  | nil => exact Nat.zero_le _
  | cons a l ih =>
    obtain ⟨b, hb, e⟩ := all a List.mem_cons_self
    have rest := ih fun a ha => all a (List.mem_cons_of_mem _ ha)
    refine Nat.lt_of_le_of_lt rest (List.sum_lt_sum _ _ ?_ ⟨b, hb, ?_⟩)
    · exact fun b _ => ((List.sublist_cons_self a l).filter _).length_le
    · rw [List.filter_cons_of_pos (by simp [e]), List.length_cons]
      exact Nat.lt_succ_self _

/-- What a callback does to the number of messages of an entity. -/
theorem Delivery.length_ofOwner {w : World} {n : Nat} (ok : w.buf.Ok n) {session : Nat} {ev : SessionEvent}
    {b' : Buffers} {filled : Option Nat} (h : Delivery cfg session w ev b' filled) (p : Owner) :
    (b'.ofOwner p).length ≤ (w.buf.ofOwner p).length ∨
      (Buffers.Room (w.ent.qos p) (w.buf.ofOwner p).length ∧ w.ent.Alive p ∧
        (b'.ofOwner p).length = (w.buf.ofOwner p).length + 1) := by
  by_cases other : addressee cfg session ev w = some p
  · cases h with
    | ignored nobody => exact absurd (nobody.symm.trans other) (by simp)
    | routed o meant reception =>
      obtain rfl := Option.some.inj (meant.symm.trans other)
      have alive := Entities.alive_of_scanned (finds_of_addressee meant).mem
      cases reception with
      | refused why same => exact .inl (by rw [same])
      | unread i grant short queue slot =>
        refine .inl (List.Sublist.length_le ?_)
        have nodup : w.buf.queue.Nodup := Slots.Ok.nodup ok
        have same : b'.ofOwner o = (w.buf.queue.erase i).filter fun j => (w.buf.slot j).owner = some o := by
          rw [Buffers.ofOwner, queue]
          refine List.filter_congr fun j hj => ?_
          rw [slot j (nodup.mem_erase_iff.1 hj).1]
        rw [same]
        exact List.erase_sublist.filter _
      | stored i grant read queue slot =>
        have list := ofOwner_stored grant queue slot
        cases grant with
        | fresh room free space => exact .inr ⟨room, alive, by rw [list, if_neg free, List.length_cons]⟩
        | evict full history oldest =>
          obtain ⟨before, after, first⟩ := oldest
          exact .inl (by rw [list, if_pos first.mem])
  · exact .inl (by rw [(h.sameQueue ok other).ofOwner])

/-! ## The invariant -/

/-- The messages of an entity were within its depth at a moment of its present life. -/
structure Budgeted (s : State) : Prop where
  resident : AllResident s
  bounded : s.call ≠ .shutdown → ∀ o, s.Alive o → s.w.buf.ofOwner o ≠ [] →
    ∃ m ∈ s.trace, m.world.ent.Alive o ∧ m.ghost.incarnation o = s.ghost.incarnation o ∧
      (s.w.buf.ofOwner o).length ≤ (m.world.ent.qos o).depth

section Step

variable {s t : State}

/-- Actions after which no entity has more messages. -/
theorem Budgeted.keep (h : Budgeted s) (resident : AllResident t) (call : t.call = s.call)
    (trace : s.trace <:+ t.trace)
    (life : s.call ≠ .shutdown → ∀ o, t.Alive o → t.w.buf.ofOwner o ≠ [] → s.Alive o ∧
      t.ghost.incarnation o = s.ghost.incarnation o ∧
      (t.w.buf.ofOwner o).length ≤ (s.w.buf.ofOwner o).length) : Budgeted t where
  resident := resident
  bounded run o alive some := by
    have run' : s.call ≠ .shutdown := call ▸ run
    obtain ⟨alive', incarnation, fewer⟩ := life run' o alive some
    have pos := List.length_pos_iff.2 some
    obtain ⟨m, hm, was, same, le⟩ := h.bounded run' o alive' (List.length_pos_iff.1 (by omega))
    exact ⟨m, trace.subset hm, was, same.trans incarnation.symm, fewer.trans le⟩

theorem SameBuffers.ofOwner (h : SameBuffers s t) (o : Owner) :
    t.w.buf.ofOwner o = s.w.buf.ofOwner o := by
  have queue : t.w.buf.queue = s.w.buf.queue := h.queue
  have slot : t.w.buf.slot = s.w.buf.slot := h.slot
  rw [Buffers.ofOwner, queue, slot, Buffers.ofOwner]

/-- An entity that is not in use has no message buffered. -/
theorem AllResident.ofOwner_dead (h : AllResident s) (run : s.call ≠ .shutdown) {o : Owner}
    (dead : ¬ s.Alive o) : s.w.buf.ofOwner o = [] := by
  apply List.eq_nil_iff_forall_not_mem.2
  intro i hi
  obtain ⟨queued, owner⟩ := Buffers.mem_ofOwner.1 hi
  obtain ⟨p, hp, alive, -⟩ := h run i queued
  obtain rfl := Option.some.inj (hp.symm.trans owner)
  exact dead alive

/-- The entities in use hold everything that is buffered. -/
theorem AllResident.length_queue (h : AllResident s) (run : s.call ≠ .shutdown) :
    s.w.buf.queue.length ≤ (s.w.ent.inUse.map fun o => (s.w.buf.ofOwner o).length).sum := by
  apply length_le_sum_parts fun i => (s.w.buf.slot i).owner
  intro i queued
  obtain ⟨o, ho, alive, -⟩ := h run i queued
  exact ⟨o, Entities.mem_inUse.2 alive, ho⟩

theorem Budgeted.raised (h : Budgeted s) (wf : Wf cfg s) (resident : AllResident t) {session : Nat}
    {ev : SessionEvent} (route : ev.route ≠ none) (e : t = raise cfg session s ev)
    (provided : ∀ m ∈ t.trace, Provided m) : Budgeted t := by
  have raised : Raised cfg s t session ev := e ▸ raise_raised wf session route
  obtain ⟨-, -, -, delivery⟩ := callback_spec (w := s.w) cfg session ev wf.staticBuffer
  have buf : (callback cfg session ev s.w).1.buf = t.w.buf := by rw [e, raise_eq s session route]
  rw [buf] at delivery
  refine ⟨resident, fun run o alive some => ?_⟩
  have run' : s.call ≠ .shutdown := raised.call ▸ run
  have alive' : s.Alive o := by rwa [State.Alive, ← raised.ent]
  have moment : ⟨s.call, .callback session ev, s.w, s.ghost⟩ ∈ t.trace := by
    rw [raised.trace]
    exact List.mem_cons_self
  rcases delivery.length_ofOwner wf.staticBuffer o with fewer | ⟨room, -, more⟩
  · have pos := List.length_pos_iff.2 some
    obtain ⟨m, hm, was, same, le⟩ := h.bounded run' o alive' (List.length_pos_iff.1 (by omega))
    refine ⟨m, ?_, was, same.trans (congrFun raised.incarnation o).symm, fewer.trans le⟩
    rw [raised.trace]
    exact List.mem_cons_of_mem _ hm
  · refine ⟨_, moment, alive', (congrFun raised.incarnation o).symm, ?_⟩
    have provides : s.w.Provides := provided _ moment (by simp [Act.callback?])
    have positive := provides.1 o (Entities.mem_inUse.2 alive')
    have below := (room_iff positive).1 room
    dsimp only
    omega

/-- Every atomic action keeps the messages within the depths. -/
theorem Budgeted.atomic (h : Budgeted s) (step : Atomic cfg s t)
    (all : ∀ m ∈ t.trace, ReleasedEmpty m ∧ Provided m) : Budgeted t := by
  have resident := h.resident.atomic step fun m hm => (all m hm).1
  have grows := step.2.2.trace_mono
  obtain ⟨wf, -, micro⟩ := step
  have released : ∀ {i : Nat}, i ∈ s.queue → ∀ o,
      ((s.w.buf.putMemory i).ofOwner o).length ≤ (s.w.buf.ofOwner o).length := by
    intro i queued o
    rw [Buffers.Ok.putMemory_ofOwner wf.staticBuffer queued]
    exact List.length_erase_le
  cases micro with
  | quiet buffers owners =>
    refine h.keep resident buffers.call grows fun _ o alive _ => ⟨(owners.alive o).1 alive, ?_, ?_⟩
    · exact congrFun owners.incarnation o
    · rw [buffers.ofOwner]
  | acquire o buffers dead alive ghost =>
    refine h.keep resident buffers.call grows fun run p hp some => ?_
    rw [buffers.ofOwner] at some ⊢
    have ne : p ≠ o := by
      rintro rfl
      exact some (h.resident.ofOwner_dead run dead)
    refine ⟨((alive p).1 hp).resolve_left ne, ?_, le_rfl⟩
    rw [ghost]
    exact if_neg ne
  | release o buffers live alive ghost =>
    refine h.keep resident buffers.call grows fun _ p hp _ => ⟨((alive p).1 hp).2, by rw [ghost], ?_⟩
    rw [buffers.ofOwner]
  | callback session ev route => exact h.raised wf resident route rfl fun m hm => (all m hm).2
  | expire i queued | flush i queued =>
    exact h.keep resident rfl grows fun _ o alive _ => ⟨alive, rfl, released queued o⟩
  | take o i deserialized found =>
    have queued := (Buffers.Ok.find_mem wf.staticBuffer found).1
    exact h.keep resident rfl grows fun _ o alive _ => ⟨alive, rfl, released queued o⟩
  | enter call agent done =>
    refine ⟨resident, fun _ o alive some => ?_⟩
    by_cases shutdown : s.call = .shutdown
    · refine absurd ?_ some
      have none : s.w.buf.queue = [] := done shutdown
      apply List.eq_nil_iff_forall_not_mem.2
      intro i hi
      have queued := (Buffers.mem_ofOwner.1 hi).1
      have none' : i ∈ s.w.buf.queue := queued
      rw [none] at none'
      cases none'
    · exact h.bounded shutdown o alive some
  | note | assign | opened | tick => exact h.keep resident rfl grows fun _ o alive _ => ⟨alive, rfl, le_rfl⟩

/-- Where all moments of a life see one profile, the messages are within the depths. -/
theorem Budgeted.within (h : Budgeted s) (run : s.call ≠ .shutdown)
    (now : ∀ m ∈ s.trace, ∀ o, m.world.ent.Alive o → s.Alive o →
      m.ghost.incarnation o = s.ghost.incarnation o → m.world.ent.qos o = s.w.ent.qos o) :
    WithinDepths s.w := by
  intro o ho
  have alive := Entities.mem_inUse.1 ho
  by_cases some : s.w.buf.ofOwner o = []
  · rw [some]
    exact Nat.zero_le _
  · obtain ⟨m, hm, was, same, le⟩ := h.bounded run o alive some
    rwa [now m hm o was alive same] at le

end Step

/-- A pool that has room for all depths has a free slot for an entity below its depth. -/
theorem free_of_below {s : State} (resident : AllResident s) (run : s.call ≠ .shutdown) (provides : s.w.Provides)
    (within : WithinDepths s.w) {o : Owner} (alive : s.Alive o)
    (below : (s.w.buf.ofOwner o).length < (s.w.ent.qos o).depth) :
    s.w.buf.queue.length < s.w.buf.staticBuffer.memory.size := by
  have ho : o ∈ s.w.ent.inUse := Entities.mem_inUse.2 alive
  calc s.w.buf.queue.length
      ≤ (s.w.ent.inUse.map fun o => (s.w.buf.ofOwner o).length).sum := resident.length_queue run
    _ < (s.w.ent.inUse.map fun o => (s.w.ent.qos o).depth).sum := List.sum_lt_sum _ _ within ⟨o, ho, below⟩
    _ ≤ s.w.buf.staticBuffer.memory.size := provides.2

/-- **A pool with room for all depths serves every entity.** In every run in which, at each reception, the
depths of the entities in use are positive and add up to no more than the pool, and no entity is released with
messages buffered, no entity ever holds more messages than its depth says, and a sample that can be read is
refused only for a reason of its own entity: the pool is never exhausted by others. -/
theorem pool_suffices (cfg : Config) (is : List Step)
    (all : ∀ m ∈ (run cfg is).trace, ReleasedEmpty m ∧ Provided m) :
    ∀ m ∈ (run cfg is).trace, m.call ≠ .shutdown → WithinDepths m.world ∧ RefusedByOwner cfg m := by
  have start : Budgeted State.zero := by
    refine ⟨fun _ i hi => ?_, fun _ o alive => ?_⟩
    · simp [State.zero, State.queue, Buffers.queue, Buffers.zero, Slots.zero, Slots.elements,
        Mempool.elements, Mempool.zero, Mempool.allocated, Intrusive.walk] at hi
    · cases o <;> simp [State.Alive, Entities.Alive, State.zero, Entities.zero, Slots.zero, Slots.elements,
        Mempool.elements, Mempool.zero, Mempool.allocated, Intrusive.walk] at alive
  refine trace_moment_rule (K := Budgeted)
    (G := fun l => (∀ m ∈ l, ReleasedEmpty m ∧ Provided m) ∧ OneProfile l)
    (fun suffix h => ⟨forall_mem_of_suffix suffix h.1, h.2.suffix suffix⟩)
    (fun s t step h budgeted => budgeted.atomic step h.1) start ?_ ⟨all, oneProfile_run cfg is⟩
  rintro s t m ⟨wf, -, micro⟩ trace ⟨provided, one⟩ h run
  have world := micro.world_of_recorded trace
  have incarnation := micro.incarnation_of_recorded trace
  have kind : m.call = s.call := by
    rcases micro.trace_cases with same | ⟨m', e, -, call⟩
    · exact absurd (congrArg List.length (same.symm.trans trace)) (by simp)
    · rw [(List.cons.inj (trace.symm.trans e)).1, call]
  rw [kind] at run
  have here : m ∈ t.trace := trace ▸ List.mem_cons_self
  have within : WithinDepths m.world := by
    rw [world]
    refine h.within run fun m' hm' o was alive same => ?_
    rw [← world]
    refine one m' (trace ▸ List.mem_cons_of_mem _ hm') m here o was ?_ ?_
    · rwa [world]
    · rw [incarnation, same]
  refine ⟨within, ?_⟩
  intro c hc o meant read refused
  have provides : m.world.Provides := (provided m here).2 (by rw [Option.mem_def.1 hc]; simp)
  rw [world] at within provides meant refused ⊢
  have alive : s.Alive o := Entities.alive_of_scanned (finds_of_addressee meant).mem
  obtain ⟨-, -, -, delivery⟩ := callback_spec (w := s.w) cfg c.1 c.2 wf.staticBuffer
  have positive := provides.1 o (Entities.mem_inUse.2 alive)
  have bound := within o (Entities.mem_inUse.2 alive)
  rw [refused] at delivery
  generalize (callback cfg c.1 c.2 s.w).1.buf = b' at delivery
  cases delivery with
  | ignored nobody => exact absurd (nobody.symm.trans meant) (by simp)
  | routed p meant' reception =>
    obtain rfl := Option.some.inj (meant'.symm.trans meant)
    cases reception with
    | unread i grant short => omega
    | refused why =>
      cases why with
      | exhausted room space =>
        have free := free_of_below h.resident run provides within alive ((room_iff positive).1 room)
        omega
      | full full history =>
        rw [room_iff positive] at full
        exact ⟨by omega, .inl history⟩
      | unreadable full late =>
        rw [room_iff positive] at full
        exact ⟨by omega, .inr late⟩

/-- Two subscriptions of depths 2 and 1 in a pool of three: each sample is accepted, in a free slot or in place of
the oldest one. -/
theorem pool_suffices_shared :
    let is := [Small.init 0, Small.createNode 1, Small.createSubscription 1 (Small.profile 2 ⟨0, 0⟩),
      Small.createSubscription 1 (Small.profile 1 ⟨0, 0⟩),
      Small.wait 1 [Small.sample 0 [7], Small.sample 1 [8], Small.sample 0 [9], Small.sample 0 [10]]]
    ((run Small.config is).trace.filterMap (·.act.callback?)).length = 4 ∧
      ∀ m ∈ (run Small.config is).trace, m.call ≠ .shutdown →
        WithinDepths m.world ∧ RefusedByOwner Small.config m := by
  refine ⟨by decide +kernel, ?_⟩
  apply pool_suffices
  decide +kernel

end RmwMicroxrcedds
