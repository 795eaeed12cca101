import RmwMicroxrcedds.Proof.Numbers
import RmwMicroxrcedds.Spec.HalfCreated

/-!
# Messages and the lifetimes of entities

A buffer records the address of its owner, and an address comes back with the next entity that is
given the slot. Releasing an entity does not release its buffers, so a buffer belongs to the entity
now at its owner's address exactly as long as entities are released with nothing buffered for them.
Only `rmw_shutdown`, which empties the pool afterwards, is free to do otherwise. An entity under
construction stands in the list with the id of the slot's last occupant, and the lookup does not ask
which context a sample came in for; where neither plays a part, a message also came in for the id that
its owner was given.
-/

namespace RmwMicroxrcedds
set_option autoImplicit false

variable {cfg : Config}

/-- The moment is the callback that filled the buffer. -/
def Ghost.FilledAt (g : Ghost) (i : Nat) (c : Moment) : Prop := ∃ src ∈ g.source i, c.number? = some src.rx

instance (g : Ghost) (i : Nat) (c : Moment) : Decidable (g.FilledAt i c) :=
  inferInstanceAs (Decidable (∃ src ∈ g.source i, _))

/-- The callback came in for the entity: by the id that the entity had been given, and through the session
of its context. -/
def Moment.CameFor (c : Moment) (o : Owner) : Prop :=
  ∃ x ∈ c.act.callback?, c.ghost.givenIn o ≠ none ∧ c.world.ent.Carries x.2 o ∧
    c.world.ent.ownerContext o = some x.1

instance (c : Moment) (o : Owner) : Decidable (c.CameFor o) :=
  inferInstanceAs (Decidable (∃ x ∈ c.act.callback?, _))

/-- The message in the buffer came in for the entity now at an address, in its present life. -/
def Ghost.ReceivedFor (g : Ghost) (trace : List Moment) (i : Nat) (o : Owner) : Prop :=
  ∃ c ∈ trace, g.FilledAt i c ∧ c.ghost.incarnation o = g.incarnation o ∧ c.CameFor o

instance (g : Ghost) (trace : List Moment) (i : Nat) (o : Owner) : Decidable (g.ReceivedFor trace i o) :=
  inferInstanceAs (Decidable (∃ c ∈ trace, _))

/-- The buffer belongs to the entity now at its owner's address: that entity is in use, of the type
recorded, and is the one that the sample came in for. -/
def Current (s : State) (i : Nat) : Prop :=
  ∃ o ∈ (s.slot i).owner, s.w.ent.Alive o ∧ (s.slot i).entityType = o.entityType ∧
    s.ghost.ReceivedFor s.trace i o

instance (s : State) (i : Nat) : Decidable (Current s i) :=
  inferInstanceAs (Decidable (∃ o ∈ (s.slot i).owner, _))

/-- A take hands out a message that came in for the entity it is called on, in its present life. -/
def TakesCurrent (trace : List Moment) (m : Moment) : Prop :=
  ∀ t ∈ m.act.take?, ∃ o ∈ t.1, m.world.ent.Alive o ∧ m.ghost.ReceivedFor trace t.2 o

instance (trace : List Moment) (m : Moment) : Decidable (TakesCurrent trace m) :=
  inferInstanceAs (Decidable (∀ t ∈ m.act.take?, ∃ o ∈ t.1, _))

/-- An entity released outside `rmw_shutdown` has no message buffered. -/
def ReleasedEmpty (m : Moment) : Prop :=
  m.call ≠ .shutdown → ∀ o ∈ m.act.release?, ∀ i ∈ m.world.buf.queue,
    (m.world.buf.slot i).owner ≠ some o

instance (m : Moment) : Decidable (ReleasedEmpty m) :=
  inferInstanceAs (Decidable (_ → ∀ o ∈ m.act.release?, ∀ i ∈ m.world.buf.queue, _))

/-- The entity at the owner's address is in use, of the type recorded, and was the one there when the
sample came in. -/
def Resident (s : State) (i : Nat) : Prop :=
  ∃ o ∈ (s.slot i).owner, s.w.ent.Alive o ∧ (s.slot i).entityType = o.entityType ∧
    ∃ src ∈ s.ghost.source i, src.incarnation = s.ghost.incarnation o

/-- A buffer whose content, owner and owner's incarnation stay as they are. -/
theorem Resident.keep {s t : State} {i : Nat} (h : Resident s i) (slot : t.slot i = s.slot i)
    (source : t.ghost.source i = s.ghost.source i)
    (owner : ∀ o, (s.slot i).owner = some o → s.Alive o →
      t.Alive o ∧ t.ghost.incarnation o = s.ghost.incarnation o) : Resident t i := by
  obtain ⟨o, ho, alive, type, src, hsrc, same⟩ := h
  obtain ⟨alive', incarnation⟩ := owner o ho alive
  refine ⟨o, ?_, alive', ?_, src, ?_, same.trans incarnation.symm⟩
  · rw [slot]
    exact ho
  · rw [slot]
    exact type
  · rw [source]
    exact hsrc

/-- Outside of a shutdown the owner of every buffer in use is the entity that was there. -/
def AllResident (s : State) : Prop := s.call ≠ .shutdown → ∀ i ∈ s.queue, Resident s i

theorem AllResident.keep {s t : State} (h : AllResident s) (call : t.call = s.call)
    (queue : t.queue ⊆ s.queue) (slot : ∀ i ∈ t.queue, t.slot i = s.slot i)
    (source : ∀ i ∈ t.queue, t.ghost.source i = s.ghost.source i)
    (owner : s.call ≠ .shutdown → ∀ i ∈ s.queue, ∀ o, (s.slot i).owner = some o → s.Alive o →
      t.Alive o ∧ t.ghost.incarnation o = s.ghost.incarnation o) : AllResident t := fun run i hi =>
  have run' : s.call ≠ .shutdown := call ▸ run
  (h run' i (queue hi)).keep (slot i hi) (source i hi) (owner run' i (queue hi))

/-- A callback fills a buffer for an entity in use, in its present life. -/
theorem AllResident.raised {s t : State} (wf : Wf cfg s) (h : AllResident s) {session : Nat}
    {ev : SessionEvent} (raised : Raised cfg s t session ev) : AllResident t := by
  have alive : ∀ o, t.Alive o ↔ s.Alive o := fun o => by rw [State.Alive, raised.ent]; exact Iff.rfl
  have stay : ∀ o, s.Alive o → t.Alive o ∧ t.ghost.incarnation o = s.ghost.incarnation o :=
    fun o ho => ⟨(alive o).2 ho, congrFun raised.incarnation o⟩
  cases raised.receipt with
  | ignored queue slot source =>
    exact h.keep raised.call (queue ▸ List.Subset.refl _) (fun i _ => congrFun slot i)
      (fun i _ => congrFun source i) fun _ _ _ o _ => stay o
  | refused o meant why queue slot source =>
    exact h.keep raised.call (queue ▸ List.Subset.refl _) (fun i _ => congrFun slot i)
      (fun i _ => congrFun source i) fun _ _ _ o _ => stay o
  | unread o meant i grant short queue slot source =>
    have nodup := Slots.Ok.nodup wf.staticBuffer
    refine h.keep raised.call (queue ▸ List.erase_subset) (fun j hj => slot j ?_)
      (fun j _ => congrFun source j) fun _ _ _ o _ => stay o
    rw [queue] at hj
    exact (nodup.mem_erase_iff.1 hj).1
  | stored o meant i grant read queue slot source =>
    intro run j hj
    by_cases ne : j = i
    · subst ne
      have own := congrFun source j
      rw [setAt_self] at own
      refine ⟨o, ?_, (alive o).2 (Entities.alive_of_scanned (finds_of_addressee meant).mem), ?_, _, own,
        (congrFun raised.incarnation o).symm⟩
      · rw [slot, setAt_self]
        rfl
      · rw [slot, setAt_self]
        rfl
    · have old : j ∈ s.queue := by
        rw [queue] at hj
        split at hj
        · exact hj
        · exact (List.mem_cons.1 hj).resolve_left ne
      exact (h (raised.call ▸ run) j old).keep (by rw [slot, setAt_of_ne _ _ ne])
        (by rw [source, setAt_of_ne _ _ ne]) fun o _ => stay o

/-- Every atomic action keeps the owners where they are, a release if nothing is buffered. -/
theorem AllResident.atomic {s t : State} (h : AllResident s) (step : Atomic cfg s t)
    (empty : ∀ m ∈ t.trace, ReleasedEmpty m) : AllResident t := by
  obtain ⟨wf, -, micro⟩ := step
  have release : ∀ {i : Nat}, i ∈ s.queue → (s.mapBuf (·.putMemory i)).queue ⊆ s.queue :=
    fun hi => queue_putMemory wf hi ▸ List.erase_subset
  cases micro with
  | quiet buffers owners =>
    exact h.keep buffers.call (buffers.queue ▸ List.Subset.refl _) (fun i _ => congrFun buffers.slot i)
      (fun i _ => congrFun buffers.source i)
      fun _ _ _ o _ ho => ⟨(owners.alive o).2 ho, congrFun owners.incarnation o⟩
  | note act => exact h
  | acquire o buffers dead alive ghost =>
    refine h.keep buffers.call (buffers.queue ▸ List.Subset.refl _) (fun i _ => congrFun buffers.slot i)
      (fun i _ => congrFun buffers.source i) fun _ _ _ p _ hp => ⟨(alive p).2 (.inr hp), ?_⟩
    have ne : p ≠ o := fun e => dead (e ▸ hp)
    rw [ghost]
    exact if_neg ne
  | assign o => exact h
  | release o buffers live alive ghost trace =>
    refine h.keep buffers.call (buffers.queue ▸ List.Subset.refl _) (fun i _ => congrFun buffers.slot i)
      (fun i _ => congrFun buffers.source i) fun run i hi p owner hp => ⟨(alive p).2 ⟨?_, hp⟩, by rw [ghost]⟩
    rintro rfl
    have recorded : ⟨s.call, .release p, s.w, s.ghost⟩ ∈ t.trace := by
      rw [trace]
      exact List.mem_cons_self
    exact empty _ recorded run p rfl i hi owner
  | opened c ok => exact h
  | tick d => exact h
  | callback session ev route => exact h.raised wf (raise_raised wf session route)
  | expire i queued =>
    exact h.keep rfl (release queued) (fun _ _ => rfl)
      (fun _ _ => rfl) fun _ _ _ _ _ ho => ⟨ho, rfl⟩
  | take o i deserialized found call =>
    have queued := (Buffers.Ok.find_mem wf.staticBuffer found).1
    exact h.keep rfl (release queued) (fun _ _ => rfl)
      (fun _ _ => rfl) fun _ _ _ _ _ ho => ⟨ho, rfl⟩
  | flush i queued =>
    exact h.keep rfl (release queued) (fun _ _ => rfl)
      (fun _ _ => rfl) fun _ _ _ _ _ ho => ⟨ho, rfl⟩
  | enter call agent done =>
    intro _ i hi
    by_cases shutdown : s.call = .shutdown
    · have hi' : i ∈ s.queue := hi
      rw [done shutdown] at hi'
      cases hi'
    · exact h shutdown i hi

/-- Every buffer in use was filled by a callback for its owner. -/
def AllReceived (s : State) : Prop :=
  ∀ i ∈ s.queue, ∃ o ∈ (s.slot i).owner, ∃ src ∈ s.ghost.source i, ∃ c ∈ s.trace,
    c.number? = some src.rx ∧ c.ghost.incarnation o = src.incarnation ∧ c.CameFor o

/-- Every atomic action keeps that, a callback if it finds an entity of its own context with an id. -/
theorem AllReceived.atomic {s t : State} (h : AllReceived s) (step : Atomic cfg s t)
    (found : ∀ m ∈ t.trace, NoLeftOverId m ∧ OwnFirst m) : AllReceived t := by
  intro i hi
  rcases step.buffer_cases hi with ⟨old, slot, source⟩ | ⟨session, ev, o, trace, finds, source, slot⟩
  · obtain ⟨o, ho, src, hsrc, c, hc, came⟩ := h i old
    exact ⟨o, slot ▸ ho, src, source ▸ hsrc, c, step.2.2.trace_mono.subset hc, came⟩
  · have recorded : ⟨s.call, .callback session ev, s.w, s.ghost⟩ ∈ t.trace := by
      rw [trace]
      exact List.mem_cons_self
    obtain ⟨silent, first⟩ := found _ recorded
    have context := ownerContext_of_finds first rfl finds
    have mem := finds.mem
    obtain ⟨before, after, -, route, -⟩ := finds
    refine ⟨o, ?_, _, source, _, recorded, rfl, rfl, (session, ev), rfl, ?_, route, context⟩
    · rw [slot]
      rfl
    · exact silent (session, ev) rfl o mem route

/-- Both together. -/
theorem Resident.current {s : State} {i : Nat} (resident : Resident s i) (received : AllReceived s)
    (queued : i ∈ s.queue) : Current s i := by
  obtain ⟨o, ho, alive, type, src, hsrc, same⟩ := resident
  obtain ⟨o', ho', src', hsrc', c, hc, number, incarnation, came⟩ := received i queued
  obtain rfl := Option.some.inj (ho.symm.trans ho')
  obtain rfl := Option.some.inj (hsrc.symm.trans hsrc')
  exact ⟨o, ho, alive, type, c, hc, ⟨src, hsrc, number⟩, incarnation.trans same, came⟩

theorem Ghost.ReceivedFor.mono {g : Ghost} {l l' : List Moment} {i : Nat} {o : Owner}
    (h : g.ReceivedFor l i o) (sub : l ⊆ l') : g.ReceivedFor l' i o := by
  obtain ⟨c, hc, rest⟩ := h
  exact ⟨c, sub hc, rest⟩

theorem TakesCurrent.mono {l l' : List Moment} {m : Moment} (h : TakesCurrent l m) (sub : l ⊆ l') :
    TakesCurrent l' m := by
  intro t ht
  obtain ⟨o, ho, alive, received⟩ := h t ht
  exact ⟨o, ho, alive, received.mono sub⟩

/-- The state between two actions. -/
structure Delivering (s : State) : Prop where
  resident : AllResident s
  received : AllReceived s
  takes : ∀ m ∈ s.trace, TakesCurrent s.trace m

theorem Delivering.current {s : State} (h : Delivering s) (run : s.call ≠ .shutdown) {i : Nat}
    (queued : i ∈ s.queue) : Current s i :=
  (h.resident run i queued).current h.received queued

/-- A take hands out what is current. -/
theorem Delivering.recorded {s t : State} (h : Delivering s) (step : Atomic cfg s t) {m : Moment}
    (trace : t.trace = m :: s.trace) : TakesCurrent s.trace m := by
  obtain ⟨wf, -, micro⟩ := step
  rintro ⟨owner, i⟩ ht
  obtain ⟨deserialized, act⟩ := Act.take?_eq_some.1 ht
  have recorded := micro.recorded trace
  have moment := recorded.2 (by simp [act])
  have took := recorded.1
  rw [Recorded, act] at took
  obtain ⟨-, found, kind⟩ := took
  obtain ⟨queued, same⟩ := Buffers.Ok.find_mem wf.staticBuffer found
  obtain ⟨o, ho, alive, -, received⟩ := h.current (by simp [kind]) queued
  rw [moment]
  exact ⟨o, same.symm.trans ho, alive, received⟩

theorem Delivering.atomic {s t : State} (h : Delivering s) (step : Atomic cfg s t)
    (all : ∀ m ∈ t.trace, ReleasedEmpty m ∧ NoLeftOverId m ∧ OwnFirst m) : Delivering t where
  resident := h.resident.atomic step fun m hm => (all m hm).1
  received := h.received.atomic step fun m hm => (all m hm).2
  takes := by
    rcases step.2.2.trace_cases with same | ⟨new, e, -, -⟩
    · rw [same]
      exact h.takes
    · intro m hm
      have sub : s.trace ⊆ t.trace := step.2.2.trace_mono.subset
      rw [e] at hm
      rcases List.mem_cons.1 hm with rfl | hm
      · exact (h.recorded step e).mono sub
      · exact (h.takes m hm).mono sub

theorem delivering_zero : Delivering State.zero := by
  have unused : ∀ i, i ∉ State.zero.queue := fun i hi => by
    simp [State.zero, State.queue, Buffers.queue, Buffers.zero, Slots.zero, Slots.elements,
      Mempool.elements, Mempool.zero, Mempool.allocated, Intrusive.walk] at hi
  exact ⟨fun _ i hi => absurd hi (unused i), fun i hi => absurd hi (unused i), fun _ hm => absurd hm
    List.not_mem_nil⟩

/-- **No delivery across lifetimes** in every run in which entities are released with nothing
buffered and callbacks find entities of their own context that were given the id: in the state reached
each buffer in use is current, and each take was. -/
theorem buffers_current (is : List Step)
    (all : ∀ m ∈ (run cfg is).trace, ReleasedEmpty m ∧ NoLeftOverId m ∧ OwnFirst m) :
    (∀ i ∈ (run cfg is).queue, Current (run cfg is) i) ∧
      ∀ m ∈ (run cfg is).trace, TakesCurrent (run cfg is).trace m := by
  have delivering : Delivering (run cfg is) :=
    run_rule (fun _ _ step all h => h.atomic step all) delivering_zero all
  refine ⟨fun i hi => ?_, delivering.takes⟩
  by_cases shutdown : (run cfg is).call = .shutdown
  · rw [(run_path cfg is).2.done shutdown] at hi
    cases hi
  · exact delivering.current shutdown hi

/-- A subscription that is emptied before it goes. -/
theorem buffers_current_emptied :
    let is := [Small.init 0, Small.createNode 1, Small.createSubscription 1 (Small.profile 1 ⟨0, 0⟩),
      Small.wait 1 [Small.sample 0 [7]], Small.take 1, Small.destroySubscription 1 1,
      Small.createSubscription 1 (Small.profile 1 ⟨0, 0⟩), Small.wait 1 [Small.sample 1 [8]]]
    (∀ m ∈ (run Small.config is).trace, ReleasedEmpty m ∧ NoLeftOverId m ∧ OwnFirst m) ∧
      (∀ i ∈ (run Small.config is).queue, Current (run Small.config is) i) ∧
      ∀ m ∈ (run Small.config is).trace, TakesCurrent (run Small.config is).trace m :=
  have all := by decide
  ⟨all, buffers_current _ all⟩

/-- A subscription is destroyed with a message buffered and another one created in its slot: the
message outlives its owner, and the take on the new subscription hands it out. The same happens to a late
sample that comes in for a subscription destroyed empty, while the next one in its slot is being created. -/
theorem message_outlives_owner :
    let is := [Small.init 0, Small.createNode 1, Small.createSubscription 1 (Small.profile 1 ⟨0, 0⟩),
      Small.wait 1 [Small.sample 0 [7]], Small.destroySubscription 1 1]
    let js := is ++ [Small.createSubscription 1 (Small.profile 1 ⟨0, 0⟩)]
    let ks := [Small.init 0, Small.createNode 1, Small.createSubscription 1 (Small.profile 1 ⟨0, 0⟩),
      Small.destroySubscription 1 1,
      ⟨.createSubscription (some 1) (some Small.typeSupport) (some ['t'])
        (some (Small.profile 1 ⟨0, 0⟩)), ⟨[Small.sample 0 [7]], true⟩ :: Small.confirming⟩]
    ((¬ ∀ i ∈ (run Small.config is).queue, Current (run Small.config is) i) ∧
      (call Small.config (run Small.config js) (Small.take 1)).1 =
        .took { ret := .ok, taken := true, payload := some [7], header := .untouched } ∧
      ¬ ∀ m ∈ (run Small.config (js ++ [Small.take 1])).trace,
        TakesCurrent (run Small.config (js ++ [Small.take 1])).trace m) ∧
    (∀ m ∈ (run Small.config ks).trace, ReleasedEmpty m) ∧
      (call Small.config (run Small.config ks) (Small.take 1)).1 =
        .took { ret := .ok, taken := true, payload := some [7], header := .untouched } ∧
      ¬ ∀ m ∈ (run Small.config (ks ++ [Small.take 1])).trace,
        TakesCurrent (run Small.config (ks ++ [Small.take 1])).trace m := by
  decide

end RmwMicroxrcedds
