import RmwMicroxrcedds.Proof.Numbers

/-!
# Arrival order and the list of buffers

The order in which messages came in is stored nowhere. A take looks for the smallest timestamp and,
among equal ones, for the buffer nearest the head of the list. The invariant says when this is the
order of arrival: along the list timestamps and numbers agree, and of two messages with one timestamp
the one nearer the head came first. A reception keeps it unless the message it stores lands in front
of one with the same timestamp.
-/

namespace RmwMicroxrcedds
set_option autoImplicit false

variable {cfg : Config}

/-- The reading that a callback stamps the buffer it fills with. -/
def Moment.stamp? (cfg : Config) (m : Moment) : Option Int :=
  m.act.callback?.bind fun c =>
    (callback cfg c.1 c.2 m.world).2.map fun _ => rmwUrosEpochNanos m.world

/-- The readings at the receptions of a trace, which begins with the latest one, never decrease. -/
def NonDecreasing (cfg : Config) (trace : List Moment) : Prop :=
  (trace.filterMap (Moment.stamp? cfg)).Pairwise (· ≥ ·)

instance (cfg : Config) (trace : List Moment) : Decidable (NonDecreasing cfg trace) :=
  inferInstanceAs (Decidable (List.Pairwise _ _))

/-- A sample that can be read is not put in front of a message of its entity with the same timestamp:
while a free slot is used, for it becomes the head of the list, no such message is queued; where the
oldest message is overwritten in place, no such message stands behind one of the smallest
timestamp. -/
def TiesInFront (cfg : Config) (m : Moment) : Prop :=
  ∀ c ∈ m.act.callback?, ∀ o ∈ addressee cfg c.1 c.2 m.world, c.2.length ≤ c.2.bytes.length →
    let b := m.world.buf
    let qos := m.world.ent.qos o
    let now := rmwUrosEpochNanos m.world
    (Buffers.Room qos (b.ofOwner o).length → b.queue.length < b.staticBuffer.memory.size →
      ∀ i ∈ b.ofOwner o, (b.slot i).timestamp ≠ now) ∧
    (¬ Buffers.Room qos (b.ofOwner o).length → qos.history ≠ .keepAll →
      (b.ofOwner o).Pairwise fun i j => (b.slot j).timestamp = now →
        ∃ k ∈ b.ofOwner o, (b.slot k).timestamp < (b.slot i).timestamp)

instance (qos : RmwQosProfile) (count : Nat) : Decidable (Buffers.Room qos count) :=
  inferInstanceAs (Decidable (_ ∨ _))

instance (cfg : Config) (m : Moment) : Decidable (TiesInFront cfg m) :=
  inferInstanceAs (Decidable (∀ c ∈ m.act.callback?, ∀ o ∈ addressee cfg c.1 c.2 m.world, _ → _ ∧ _))

/-- Timestamps and numbers agree for messages of one entity, the first standing in front. -/
def Agree (s : State) (i j : Nat) : Prop :=
  (s.slot i).owner = (s.slot j).owner →
    Earliest.Agree (fun i => (s.slot i).timestamp) s.ghost.number i j

structure Arranged (cfg : Config) (s : State) : Prop where
  numbered : Numbered s
  stamped : ∀ i ∈ s.queue, (s.slot i).timestamp ∈ s.trace.filterMap (Moment.stamp? cfg)
  agree : s.queue.Pairwise (Agree s)

theorem Agree.congr {s t : State} {i j : Nat} (h : Agree s i j) (slot : ∀ k ∈ [i, j], t.slot k = s.slot k)
    (source : ∀ k ∈ [i, j], t.ghost.source k = s.ghost.source k) : Agree t i j := by
  simp only [List.mem_cons, List.not_mem_nil, or_false, forall_eq_or_imp, forall_eq] at slot source
  intro same
  rw [slot.1, slot.2] at same
  have agree := h same
  simp only [Earliest.Agree, Ghost.number] at agree ⊢
  rw [slot.1, slot.2, source.1, source.2]
  exact agree

/-! ## Timestamps -/

/-- Every queued message carries the reading that was recorded when it came in. -/
def Stamped (cfg : Config) (s : State) : Prop :=
  ∀ i ∈ s.queue, (s.slot i).timestamp ∈ s.trace.filterMap (Moment.stamp? cfg)

theorem Stamped.keep {s t : State} (h : Stamped cfg s) (queue : t.queue ⊆ s.queue)
    (slot : ∀ i ∈ t.queue, t.slot i = s.slot i) (trace : s.trace <:+ t.trace) : Stamped cfg t := by
  intro i hi
  rw [slot i hi]
  exact (trace.sublist.filterMap _).subset (h i (queue hi))

/-- The stamp of a reception that fills a buffer. -/
theorem stamps_of_filled {s t : State} {session : Nat} {ev : SessionEvent} {i : Nat}
    (raised : Raised cfg s t session ev) (fills : (callback cfg session ev s.w).2 = some i) :
    t.trace.filterMap (Moment.stamp? cfg) =
      rmwUrosEpochNanos s.w :: s.trace.filterMap (Moment.stamp? cfg) := by
  rw [raised.trace, List.filterMap_cons_some]
  simp [Moment.stamp?, Act.callback?, fills]

theorem Stamped.raised {s t : State} (wf : Wf cfg s) (h : Stamped cfg s) {session : Nat}
    {ev : SessionEvent} (raised : Raised cfg s t session ev) : Stamped cfg t := by
  have suffix : s.trace <:+ t.trace := by
    rw [raised.trace]
    exact List.suffix_cons _ _
  cases raised.receipt with
  | ignored queue slot => exact h.keep (queue ▸ List.Subset.refl _) (fun i _ => congrFun slot i) suffix
  | refused o meant why queue slot =>
    exact h.keep (queue ▸ List.Subset.refl _) (fun i _ => congrFun slot i) suffix
  | unread o meant i grant short queue slot =>
    refine h.keep (queue ▸ List.erase_subset) (fun j hj => slot j ?_) suffix
    rw [queue] at hj
    exact ((Slots.Ok.nodup wf.staticBuffer).mem_erase_iff.1 hj).1
  | stored o meant i grant read queue slot source fills =>
    intro j hj
    rw [stamps_of_filled raised fills]
    by_cases ne : j = i
    · rw [ne, slot, setAt_self]
      exact List.mem_cons_self
    · have old : j ∈ s.queue := by
        rw [queue] at hj
        split at hj
        · exact hj
        · exact (List.mem_cons.1 hj).resolve_left ne
      rw [slot, setAt_of_ne _ _ ne]
      exact List.mem_cons_of_mem _ (h j old)

/-- Every atomic action. -/
theorem Stamped.atomic {s t : State} (step : Atomic cfg s t) (h : Stamped cfg s) : Stamped cfg t := by
  obtain ⟨wf, -, micro⟩ := step
  have suffix := micro.trace_mono
  have same : SameBuffers s t → Stamped cfg t := fun buffers =>
    h.keep (buffers.queue ▸ List.Subset.refl _) (fun i _ => congrFun buffers.slot i) suffix
  have released : ∀ {act : Act} {j : Nat}, j ∈ s.queue →
      s.trace <:+ ((s.record act).mapBuf (·.putMemory j)).trace →
      Stamped cfg ((s.record act).mapBuf (·.putMemory j)) := fun hj suffix =>
    h.keep (fun i hi => List.erase_subset (queue_putMemory wf hj ▸ hi)) (fun _ _ => rfl) suffix
  cases micro with
  | quiet buffers => exact same buffers
  | acquire o buffers => exact same buffers
  | release o buffers => exact same buffers
  | callback session ev route => exact h.raised wf (raise_raised wf session route)
  | expire j queued => exact released queued suffix
  | take o j deserialized found => exact released (Buffers.Ok.find_mem wf.staticBuffer found).1 suffix
  | flush j queued => exact released queued suffix
  | _ => exact h.keep (List.Subset.refl _) (fun _ _ => rfl) suffix

theorem stamped_zero (cfg : Config) : Stamped cfg State.zero := fun i hi => by
  obtain ⟨src, holds⟩ := sourced_zero.holds i hi
  exact absurd holds.source (by simp [State.zero])

theorem run_stamped (cfg : Config) (is : List Step) : Stamped cfg (run cfg is) :=
  (run_path cfg is).1.keeps (fun _ _ step h => h.atomic step) (stamped_zero cfg)

/-! ## The arrangement -/

/-- Actions that change no buffer that stays in use. -/
theorem Arranged.keep {s t : State} (h : Arranged cfg s) (numbered : Numbered t)
    (queue : t.queue.Sublist s.queue) (slot : ∀ i ∈ t.queue, t.slot i = s.slot i)
    (source : ∀ i ∈ t.queue, t.ghost.source i = s.ghost.source i) (trace : s.trace <:+ t.trace) :
    Arranged cfg t where
  numbered := numbered
  stamped := Stamped.keep h.stamped queue.subset slot trace
  agree := by
    refine (h.agree.sublist queue).imp_of_mem fun {i j} hi hj agree => agree.congr ?_ ?_
    · simp [slot i hi, slot j hj]
    · simp [source i hi, source j hj]

/-- A reception that fills a buffer: the new message carries the latest reading and the highest
number, and none of its timestamp is behind it. -/
theorem Arranged.raised {s t : State} (wf : Wf cfg s) (h : Arranged cfg s) (numbered : Numbered t)
    {session : Nat} {ev : SessionEvent} (raised : Raised cfg s t session ev)
    (monotone : NonDecreasing cfg t.trace)
    (front : (callback cfg session ev s.w).2 ≠ none →
      TiesInFront cfg ⟨s.call, .callback session ev, s.w, s.ghost⟩) : Arranged cfg t := by
  have suffix : s.trace <:+ t.trace := by
    rw [raised.trace]
    exact List.suffix_cons _ _
  have nodup := Slots.Ok.nodup wf.staticBuffer
  cases raised.receipt with
  | ignored queue slot source =>
    exact h.keep numbered (queue ▸ List.Sublist.refl _) (fun i _ => congrFun slot i)
      (fun i _ => congrFun source i) suffix
  | refused o meant why queue slot source =>
    exact h.keep numbered (queue ▸ List.Sublist.refl _) (fun i _ => congrFun slot i)
      (fun i _ => congrFun source i) suffix
  | unread o meant i grant short queue slot source =>
    refine h.keep numbered (queue ▸ List.erase_sublist) (fun j hj => slot j ?_)
      (fun j _ => congrFun source j) suffix
    rw [queue] at hj
    exact (nodup.mem_erase_iff.1 hj).1
  | stored o meant i grant read queue slot source fills =>
    set now := rmwUrosEpochNanos s.w with hnow
    rw [NonDecreasing, stamps_of_filled raised fills, List.pairwise_cons] at monotone
    have latest : ∀ j ∈ s.queue, (s.slot j).timestamp ≤ now := fun j hj =>
      monotone.1 _ (h.stamped j hj)
    have slot_self : t.slot i = ev.stored o now (s.slot i) := by rw [slot, setAt_self]
    have number_self : t.ghost.number i = s.ghost.rx := by simp [Ghost.number, source]
    have slot_ne : ∀ {j}, j ≠ i → t.slot j = s.slot j := fun ne => by rw [slot, setAt_of_ne _ _ ne]
    have source_ne : ∀ {j}, j ≠ i → t.ghost.source j = s.ghost.source j := fun ne => by
      rw [source, setAt_of_ne _ _ ne]
    have number_ne : ∀ {j}, j ≠ i → t.ghost.number j = s.ghost.number j := fun ne => by
      rw [Ghost.number, Ghost.number, source_ne ne]
    have earlier : ∀ j ∈ s.queue, s.ghost.number j < s.ghost.rx := fun j hj => by
      obtain ⟨src, holds⟩ := h.numbered.sourced.holds j hj
      exact holds.number ▸ holds.earlier
    -- a message in front of the new one agrees with it, one behind it if its timestamp is smaller
    have before : ∀ j ∈ s.queue, j ≠ i → Agree t j i := fun j hj ne _ => by
      refine .inl ⟨?_, ?_⟩
      · simp only [slot_ne ne, slot_self]
        exact latest j hj
      · rw [number_ne ne, number_self]
        exact earlier j hj
    have after : ∀ j ∈ s.queue, j ≠ i → ((s.slot j).owner = some o → (s.slot j).timestamp ≠ now) →
        Agree t i j := fun j hj ne untied same => by
      rw [slot_self, slot_ne ne] at same
      have le := latest j hj
      have apart := untied same.symm
      refine .inr ⟨?_, ?_⟩
      · simp only [slot_ne ne, slot_self, SessionEvent.stored]
        omega
      · rw [number_ne ne, number_self]
        exact earlier j hj
    have others : ∀ j ∈ s.queue, ∀ k ∈ s.queue, j ≠ i → k ≠ i → Agree s j k → Agree t j k :=
      fun j _ k _ hj hk agree => agree.congr (by simp [slot_ne hj, slot_ne hk])
        (by simp [source_ne hj, source_ne hk])
    have ties := front (by simp [fills]) (session, ev) rfl o meant read
    refine ⟨numbered, Stamped.raised wf h.stamped raised, ?_⟩
    cases grant with
    | fresh room free space =>
      rw [queue, if_neg (show i ∉ s.queue from free), List.pairwise_cons]
      have ne : ∀ j ∈ s.queue, j ≠ i := fun j hj e => free (e ▸ hj)
      constructor
      · intro j hj
        apply after j hj (ne j hj)
        intro owner
        exact ties.1 room space j (Buffers.mem_ofOwner.2 ⟨hj, owner⟩)
      · exact h.agree.imp_of_mem fun {j k} hj hk => others j hj k hk (ne j hj) (ne k hk)
    | evict full history oldest =>
      obtain ⟨front, back, first⟩ := oldest
      rw [queue, if_pos (show i ∈ s.queue from first.mem)]
      have untied := List.pairwise_filter.1 (ties.2 full history)
      refine ((h.agree.and untied).and nodup).imp_of_mem ?_
      rintro j k hj hk ⟨⟨agree, tie⟩, ne⟩
      by_cases ji : j = i
      · subst ji
        apply after k hk ne.symm
        intro owner tied
        obtain ⟨l, hl, lt⟩ := tie (decide_eq_true first.relevant) (decide_eq_true owner) tied
        obtain ⟨mem, own⟩ := Buffers.mem_ofOwner.1 hl
        exact absurd lt (not_lt.2 (first.le mem own))
      · by_cases ki : k = i
        · subst ki
          exact before j hj ji
        · exact others j hj k hk ji ki agree

/-- **Every atomic action keeps the arrangement**, a reception if ties land in front. -/
theorem Arranged.atomic {s t : State} (h : Arranged cfg s) (step : Atomic cfg s t)
    (monotone : NonDecreasing cfg t.trace)
    (front : ∀ m, t.trace = m :: s.trace → m.stamp? cfg ≠ none → TiesInFront cfg m) :
    Arranged cfg t := by
  have numbered := h.numbered.atomic step
  obtain ⟨wf, -, micro⟩ := step
  have suffix := micro.trace_mono
  have released : ∀ {u : State} {i : Nat}, Numbered u → u.w.buf = s.w.buf.putMemory i →
      u.ghost = s.ghost → s.trace <:+ u.trace → i ∈ s.queue → Arranged cfg u := by
    intro u i numbered buf ghost suffix hi
    have queue : u.queue = s.queue.erase i :=
      (congrArg Buffers.queue buf).trans (queue_putMemory wf hi)
    refine h.keep numbered (queue ▸ List.erase_sublist) (fun j _ => ?_) (fun j _ => by rw [ghost]) suffix
    exact congrFun (congrArg Buffers.slot buf) j
  have same : SameBuffers s t → Arranged cfg t := fun buffers =>
    h.keep numbered (buffers.queue ▸ List.Sublist.refl _) (fun i _ => congrFun buffers.slot i)
      (fun i _ => congrFun buffers.source i) suffix
  cases micro with
  | quiet buffers => exact same buffers
  | acquire o buffers => exact same buffers
  | release o buffers => exact same buffers
  | callback session ev route =>
    have raised := raise_raised wf session route
    refine h.raised wf numbered raised monotone fun fills => front _ raised.trace ?_
    simpa [Moment.stamp?, Act.callback?] using fills
  | expire i queued => exact released numbered rfl rfl suffix queued
  | take o i deserialized found =>
    exact released numbered rfl rfl suffix (Buffers.Ok.find_mem wf.staticBuffer found).1
  | flush i queued => exact released numbered rfl rfl suffix queued
  | _ => exact h.keep numbered (List.Sublist.refl _) (fun _ _ => rfl) (fun _ _ => rfl) suffix

theorem arranged_zero (cfg : Config) : Arranged cfg State.zero where
  numbered := numbered_zero
  stamped := stamped_zero cfg
  agree := List.Pairwise.nil

/-- **The buffer found is that of the earliest message.** -/
theorem Arranged.first {s : State} (h : Arranged cfg s) {o : Owner} {i : Nat} {front back : List Nat}
    (oldest : s.w.buf.Oldest o i front back) {j : Nat} (hj : j ∈ s.w.buf.ofOwner o) (ne : j ≠ i) :
    s.ghost.number i < s.ghost.number j := by
  obtain ⟨mem, owner⟩ := Buffers.mem_ofOwner.1 hj
  refine oldest.rank_lt ?_ mem owner ne
  exact h.agree.imp fun agree p q => agree (p.trans q.symm)

end RmwMicroxrcedds
