import RmwMicroxrcedds.Proof.Steps

/-!
# Callbacks and the sources of the buffers

What one callback does to the state, history variables included, and the invariant the results
about messages start from: a buffer in use holds the sample of one callback, the number of which
tells it from all others.
-/

namespace RmwMicroxrcedds
set_option autoImplicit false

variable {cfg : Config}

/-- What a callback does to the buffers and to their sources. -/
inductive Receipt (cfg : Config) (s t : State) (session : Nat) (ev : SessionEvent) : Prop
  | ignored (queue : t.queue = s.queue) (slot : t.slot = s.slot)
      (source : t.ghost.source = s.ghost.source) (nobody : addressee cfg session ev s.w = none)
      (fills : (callback cfg session ev s.w).2 = none)
  | refused (o : Owner) (meant : addressee cfg session ev s.w = some o)
      (why : s.w.buf.Refusal o (s.w.ent.qos o)) (queue : t.queue = s.queue) (slot : t.slot = s.slot)
      (source : t.ghost.source = s.ghost.source) (fills : (callback cfg session ev s.w).2 = none)
  | unread (o : Owner) (meant : addressee cfg session ev s.w = some o) (i : Nat)
      (grant : s.w.buf.Grant o (s.w.ent.qos o) i) (short : ev.bytes.length < ev.length)
      (queue : t.queue = s.queue.erase i) (slot : ∀ j, j ≠ i → t.slot j = s.slot j)
      (source : t.ghost.source = s.ghost.source) (fills : (callback cfg session ev s.w).2 = none)
  | stored (o : Owner) (meant : addressee cfg session ev s.w = some o) (i : Nat)
      (grant : s.w.buf.Grant o (s.w.ent.qos o) i) (read : ev.length ≤ ev.bytes.length)
      (queue : t.queue = if i ∈ s.queue then s.queue else i :: s.queue)
      (slot : t.slot = setAt s.slot i (ev.stored o (rmwUrosEpochNanos s.w) (s.slot i)))
      (source : t.ghost.source = setAt s.ghost.source i (some
        { rx := s.ghost.rx, session := session, event := ev, nanos := s.w.uxrNanos
          incarnation := s.ghost.incarnation o }))
      (fills : (callback cfg session ev s.w).2 = some i)

/-- What a callback does to the state. -/
structure Raised (cfg : Config) (s t : State) (session : Nat) (ev : SessionEvent) : Prop where
  ent : t.w.ent = s.w.ent
  nanos : t.w.uxrNanos = s.w.uxrNanos
  rx : t.ghost.rx = s.ghost.rx + 1
  incarnation : t.ghost.incarnation = s.ghost.incarnation
  givenIn : t.ghost.givenIn = s.ghost.givenIn
  epoch : t.ghost.epoch = s.ghost.epoch
  call : t.call = s.call
  trace : t.trace = ⟨s.call, .callback session ev, s.w, s.ghost⟩ :: s.trace
  receipt : Receipt cfg s t session ev

theorem raise_raised {s : State} (wf : Wf cfg s) (session : Nat) {ev : SessionEvent}
    (route : ev.route ≠ none) : Raised cfg s (raise cfg session s ev) session ev := by
  obtain ⟨ent, nanos, ok, delivery⟩ := callback_spec (w := s.w) cfg session ev wf.staticBuffer
  rw [raise_eq s session route]
  set r := callback cfg session ev s.w with hr
  refine ⟨ent, nanos, rfl, rfl, rfl, rfl, rfl, rfl, ?_⟩
  generalize hf : r.2 = filled at delivery ⊢
  cases delivery with
  | ignored nobody same =>
    refine .ignored ?_ ?_ ?_ nobody hf
    · exact congrArg Slots.elements same
    · exact congrArg Slots.custom same
    · simp only [Ghost.received]
  | routed o meant reception =>
    cases reception with
    | refused why same =>
      refine .refused o meant why ?_ ?_ ?_ hf
      · exact congrArg Buffers.queue same
      · exact congrArg Buffers.slot same
      · simp only [Ghost.received]
    | unread i grant short queue slot =>
      refine .unread o meant i grant short queue slot ?_ hf
      simp only [Ghost.received]
    | stored i grant read queue slot =>
      refine .stored o meant i grant read queue slot ?_ hf
      have owner : (r.1.buf.data i).owner = some o := by
        rw [Buffers.Ok.data_eq ok, slot, setAt_self]
        rfl
      simp only [Ghost.received, owner, Option.map_some, Option.getD_some, nanos]

/-! ## Takes -/

/-- The part the three take functions share, after its cleaning. -/
theorem takeOldest_run {s : State} (wf : Wf cfg s) (owner : Option Owner)
    (header : StaticInputBuffer → TakeHeader) (cdrDeserialize : List UInt8 → Bool) :
    let t := (rmwUxrceCleanExpiredStaticInputBuffer s).2
    (rmwUxrceFindStaticInputBufferByOwner t.w.buf owner = none ∧
      takeOldest owner header cdrDeserialize s =
        ({ ret := .error, taken := false, payload := none, header := .untouched }, t)) ∨
    ∃ i, rmwUxrceFindStaticInputBufferByOwner t.w.buf owner = some i ∧ i ∈ t.queue ∧
      (t.slot i).owner = owner ∧
      let payload := (t.slot i).buffer.take (t.slot i).length
      takeOldest owner header cdrDeserialize s =
        ({ ret := if cdrDeserialize payload then .ok else .error, taken := cdrDeserialize payload
           payload := some payload, header := header (t.slot i) },
          (t.record (.take owner i (cdrDeserialize payload))).mapBuf (·.putMemory i)) := by
  intro t
  obtain ⟨-, wf', -⟩ := clean_spec wf
  cases found : rmwUxrceFindStaticInputBufferByOwner t.w.buf owner with
  | none =>
    refine .inl ⟨rfl, ?_⟩
    rw [takeOldest, Prog.bind_run, Prog.get_run,
      show rmwUxrceFindStaticInputBufferByOwner _ owner = none from found]
    rfl
  | some i =>
    obtain ⟨queued, same⟩ := Buffers.Ok.find_mem wf'.staticBuffer found
    refine .inr ⟨i, rfl, queued, same, ?_⟩
    rw [takeOldest, Prog.bind_run, Prog.get_run,
      show rmwUxrceFindStaticInputBufferByOwner _ owner = some i from found]
    have data : t.w.buf.data i = t.slot i := Buffers.Ok.data_eq wf'.staticBuffer i
    rw [← data]
    rfl

/-- A take on a handle in use searches for the owner behind it. -/
theorem takeFrom_run {β : Type} [Element β] {k : Kind β} {s : State} (handles : Handles (k.slots s.w.ent))
    {i : Nat} (hi : i ∈ (k.slots s.w.ent).elements) {o : Owner} (owner : k.owner i = some o)
    (header : StaticInputBuffer → TakeHeader) (cdrDeserialize : List UInt8 → Bool) :
    takeFrom k i header cdrDeserialize s = takeOldest (some o) header cdrDeserialize s := by
  have handle := handles.of_mem hi
  rw [takeFrom, Prog.bind_run, readElement_run]
  dsimp only
  rw [handle]
  simp only [Option.some.injEq, reduceCtorEq, if_false, Option.bind_some, owner]

/-! ## Sources -/

/-- The buffer `i` holds the sample of the callback `src`. -/
structure Holds (s : State) (i : Nat) (src : Source) : Prop where
  source : s.ghost.source i = some src
  earlier : src.rx < s.ghost.rx
  nanos : src.nanos ≤ s.w.uxrNanos
  content : ∃ o now d, src.event.Addresses o ∧ s.slot i = src.event.stored o now d
  read : src.event.length ≤ src.event.bytes.length

/-- Every buffer in use holds the sample of a callback of its own. -/
structure Sourced (s : State) : Prop where
  holds : ∀ i ∈ s.queue, ∃ src, Holds s i src
  distinct : ∀ i ∈ s.queue, ∀ j ∈ s.queue, ∀ a b, s.ghost.source i = some a →
    s.ghost.source j = some b → a.rx = b.rx → i = j

/-- Buffers that stay untouched keep their sources. -/
theorem Sourced.keep {s t : State} (h : Sourced s) (queue : t.queue ⊆ s.queue)
    (slot : ∀ i ∈ t.queue, t.slot i = s.slot i)
    (source : ∀ i ∈ t.queue, t.ghost.source i = s.ghost.source i)
    (rx : s.ghost.rx ≤ t.ghost.rx) (nanos : s.w.uxrNanos ≤ t.w.uxrNanos) : Sourced t where
  holds i hi := by
    obtain ⟨src, holds⟩ := h.holds i (queue hi)
    refine ⟨src, (source i hi).trans holds.source, holds.earlier.trans_le rx,
      holds.nanos.trans nanos, ?_, holds.read⟩
    rw [slot i hi]
    exact holds.content
  distinct i hi j hj a b ha hb := by
    rw [source i hi] at ha
    rw [source j hj] at hb
    exact h.distinct i (queue hi) j (queue hj) a b ha hb

theorem Sourced.same {s t : State} (h : Sourced s) (b : SameBuffers s t) : Sourced t :=
  h.keep (b.queue ▸ List.Subset.refl _) (fun i _ => congrFun b.slot i)
    (fun i _ => congrFun b.source i) b.rx.ge b.nanos.ge

/-- A stored sample is the only one with its number. -/
theorem Sourced.stored {s t : State} (h : Sourced s) {session : Nat} {ev : SessionEvent}
    {o : Owner} {i : Nat} (addresses : ev.Addresses o) (read : ev.length ≤ ev.bytes.length)
    (queue : t.queue = if i ∈ s.queue then s.queue else i :: s.queue)
    (slot : t.slot = setAt s.slot i (ev.stored o (rmwUrosEpochNanos s.w) (s.slot i)))
    (source : t.ghost.source = setAt s.ghost.source i (some
      { rx := s.ghost.rx, session := session, event := ev, nanos := s.w.uxrNanos
        incarnation := s.ghost.incarnation o }))
    (rx : t.ghost.rx = s.ghost.rx + 1) (nanos : t.w.uxrNanos = s.w.uxrNanos) : Sourced t := by
  have old : ∀ j ∈ t.queue, j ≠ i → j ∈ s.queue := fun j hj ne => by
    rw [queue] at hj
    split at hj
    · exact hj
    · exact (List.mem_cons.1 hj).resolve_left ne
  have own := congrFun source i
  rw [setAt_self] at own
  have others : ∀ j, j ≠ i → t.ghost.source j = s.ghost.source j := fun j ne => by
    rw [source, setAt_of_ne _ _ ne]
  -- the number of another buffer in use is an earlier one
  have fresh : ∀ j ∈ t.queue, j ≠ i → ∀ a, t.ghost.source j = some a → a.rx < s.ghost.rx :=
    fun j hj ne a ha => by
      obtain ⟨src, holds⟩ := h.holds j (old j hj ne)
      rw [others j ne, holds.source, Option.some.injEq] at ha
      exact ha ▸ holds.earlier
  constructor
  · intro j hj
    by_cases ne : j = i
    · subst ne
      refine ⟨_, own, by rw [rx]; exact Nat.lt_succ_self _, nanos.ge,
        ⟨o, rmwUrosEpochNanos s.w, s.slot j, addresses, ?_⟩, read⟩
      rw [slot, setAt_self]
    · obtain ⟨src, holds⟩ := h.holds j (old j hj ne)
      refine ⟨src, (others j ne).trans holds.source, holds.earlier.trans (by rw [rx]; exact Nat.lt_succ_self _),
        holds.nanos.trans nanos.ge, ?_, holds.read⟩
      rw [slot, setAt_of_ne _ _ ne]
      exact holds.content
  · intro j hj k hk a b ha hb same
    by_cases hji : j = i <;> by_cases hki : k = i
    · rw [hji, hki]
    · subst hji
      rw [own, Option.some.injEq] at ha
      have := fresh k hk hki b hb
      rw [← same, ← ha] at this
      exact absurd this (lt_irrefl _)
    · subst hki
      rw [own, Option.some.injEq] at hb
      have := fresh j hj hji a ha
      rw [same, ← hb] at this
      exact absurd this (lt_irrefl _)
    · rw [others j hji] at ha
      rw [others k hki] at hb
      exact h.distinct j (old j hj hji) k (old k hk hki) a b ha hb same

theorem sourced_zero : Sourced State.zero where
  holds i hi := by simp [State.zero, State.queue, Buffers.queue, Buffers.zero, Slots.zero,
    Slots.elements, Mempool.elements, Mempool.zero, Mempool.allocated, Intrusive.walk] at hi
  distinct i hi := by simp [State.zero, State.queue, Buffers.queue, Buffers.zero, Slots.zero,
    Slots.elements, Mempool.elements, Mempool.zero, Mempool.allocated, Intrusive.walk] at hi

/-- A release of a buffer. -/
theorem queue_putMemory {s : State} (wf : Wf cfg s) {i : Nat} (h : i ∈ s.queue) :
    (s.mapBuf (·.putMemory i)).queue = s.queue.erase i := (Buffers.Ok.putMemory wf.staticBuffer h).2

/-- A buffer in use after an action is what it was, or the action is the callback that filled it. -/
theorem Atomic.buffer_cases {s t : State} (step : Atomic cfg s t) {i : Nat} (hi : i ∈ t.queue) :
    (i ∈ s.queue ∧ t.slot i = s.slot i ∧ t.ghost.source i = s.ghost.source i) ∨
      ∃ session ev o, t.trace = ⟨s.call, .callback session ev, s.w, s.ghost⟩ :: s.trace ∧
        s.w.ent.Finds ev o ∧
        t.ghost.source i = some
          { rx := s.ghost.rx, session := session, event := ev, nanos := s.w.uxrNanos
            incarnation := s.ghost.incarnation o } ∧
        t.slot i = ev.stored o (rmwUrosEpochNanos s.w) (s.slot i) := by
  obtain ⟨wf, -, micro⟩ := step
  have released : ∀ {j}, j ∈ s.queue → i ∈ (s.mapBuf (·.putMemory j)).queue → i ∈ s.queue :=
    fun hj h => List.erase_subset (queue_putMemory wf hj ▸ h)
  have same : SameBuffers s t → i ∈ s.queue ∧ t.slot i = s.slot i ∧ t.ghost.source i = s.ghost.source i :=
    fun buffers => ⟨buffers.queue ▸ hi, congrFun buffers.slot i, congrFun buffers.source i⟩
  cases micro with
  | quiet buffers => exact .inl (same buffers)
  | acquire o buffers => exact .inl (same buffers)
  | release o buffers => exact .inl (same buffers)
  | callback session ev route =>
    have raised := raise_raised wf session route
    cases raised.receipt with
    | ignored queue slot source => exact .inl ⟨queue ▸ hi, congrFun slot i, congrFun source i⟩
    | refused o meant why queue slot source =>
      exact .inl ⟨queue ▸ hi, congrFun slot i, congrFun source i⟩
    | unread o meant j grant short queue slot source =>
      rw [queue] at hi
      have ne := ((Slots.Ok.nodup wf.staticBuffer).mem_erase_iff.1 hi).1
      exact .inl ⟨List.erase_subset hi, slot i ne, congrFun source i⟩
    | stored o meant j grant read queue slot source =>
      by_cases ne : i = j
      · exact .inr ⟨session, ev, o, raised.trace, finds_of_addressee meant, by rw [source, ne, setAt_self],
          by rw [slot, ne, setAt_self]⟩
      · refine .inl ⟨?_, by rw [slot, setAt_of_ne _ _ ne], by rw [source, setAt_of_ne _ _ ne]⟩
        rw [queue] at hi
        split at hi
        · exact hi
        · exact (List.mem_cons.1 hi).resolve_left ne
  | expire j queued => exact .inl ⟨released queued hi, rfl, rfl⟩
  | take o j deserialized found =>
    exact .inl ⟨released (Buffers.Ok.find_mem wf.staticBuffer found).1 hi, rfl, rfl⟩
  | flush j queued => exact .inl ⟨released queued hi, rfl, rfl⟩
  | _ => exact .inl ⟨hi, rfl, rfl⟩

theorem Atomic.rx_le {s t : State} (step : Atomic cfg s t) : s.ghost.rx ≤ t.ghost.rx := by
  obtain ⟨wf, -, micro⟩ := step
  cases micro with
  | quiet buffers => exact buffers.rx.ge
  | acquire o buffers => exact buffers.rx.ge
  | release o buffers => exact buffers.rx.ge
  | callback session ev route =>
    rw [(raise_raised wf session route).rx]
    exact Nat.le_succ _
  | _ => exact le_rfl

/-- Every atomic action keeps the sources. -/
theorem Sourced.atomic {s t : State} (h : Sourced s) (step : Atomic cfg s t) : Sourced t := by
  obtain ⟨wf, -, micro⟩ := step
  have release : ∀ {u : State} {i : Nat}, u.w.buf = s.w.buf.putMemory i → u.ghost = s.ghost →
      u.w.uxrNanos = s.w.uxrNanos → i ∈ s.queue → Sourced u := fun {u i} buf ghost nanos hi => by
    have queue : u.queue = s.queue.erase i :=
      (congrArg Buffers.queue buf).trans (queue_putMemory wf hi)
    refine h.keep ?_ (fun j _ => ?_) (fun j _ => by rw [ghost]) (by rw [ghost]) nanos.ge
    · rw [queue]
      exact List.erase_subset
    · exact congrFun (congrArg Buffers.slot buf) j
  cases micro with
  | quiet buffers => exact h.same buffers
  | note act => exact h.same ⟨rfl, rfl, rfl, rfl, rfl, rfl⟩
  | acquire o buffers => exact h.same buffers
  | assign o => exact h.same ⟨rfl, rfl, rfl, rfl, rfl, rfl⟩
  | release o buffers => exact h.same buffers
  | opened c ok => exact h.same ⟨rfl, rfl, rfl, rfl, rfl, rfl⟩
  | tick d =>
    exact h.keep (List.Subset.refl _) (fun _ _ => rfl) (fun _ _ => rfl) le_rfl
      (Int.le_add_of_nonneg_right (Int.natCast_nonneg d))
  | callback session ev route =>
    obtain ⟨-, nanos, rx, -, -, -, -, -, receipt⟩ := raise_raised wf session route
    have later : s.ghost.rx ≤ (raise cfg session s ev).ghost.rx := rx ▸ Nat.le_succ _
    cases receipt with
    | ignored queue slot source =>
      exact h.keep (queue ▸ List.Subset.refl _) (fun i _ => congrFun slot i)
        (fun i _ => congrFun source i) later nanos.ge
    | refused o meant why queue slot source =>
      exact h.keep (queue ▸ List.Subset.refl _) (fun i _ => congrFun slot i)
        (fun i _ => congrFun source i) later nanos.ge
    | unread o meant i grant short queue slot source =>
      have nodup := Slots.Ok.nodup wf.staticBuffer
      refine h.keep (queue ▸ List.erase_subset) (fun j hj => slot j ?_)
        (fun j _ => congrFun source j) later nanos.ge
      rw [queue] at hj
      exact (nodup.mem_erase_iff.1 hj).1
    | stored o meant i grant read queue slot source => 
      exact h.stored (SessionEvent.addresses_of_scanned (finds_of_addressee meant).mem) read queue slot source rx nanos
  | expire i queued => exact release rfl rfl rfl queued
  | take o i deserialized found =>
    exact release rfl rfl rfl (Buffers.Ok.find_mem wf.staticBuffer found).1
  | flush i queued => exact release rfl rfl rfl queued
  | enter => exact h.keep (List.Subset.refl _) (fun _ _ => rfl) (fun _ _ => rfl) le_rfl le_rfl

end RmwMicroxrcedds
