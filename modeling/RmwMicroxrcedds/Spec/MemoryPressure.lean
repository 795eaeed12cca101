import RmwMicroxrcedds.Proof.Queues

/-!
# KEEP_LAST and the shared pool

An entity with history KEEP_LAST gives up its oldest message for a new one once it holds as many as
its depth says. Below that it asks the pool that all entities share for a free slot, and where there
is none the sample is refused, with an error, whatever the entity itself holds.
-/

namespace RmwMicroxrcedds
set_option autoImplicit false

variable {cfg : Config}

/-- The callback leaves the new message in the queue of `o`: in a slot that was free, or in place of
the oldest message of `o`. The other messages of `o` stay. -/
def Keeps (cfg : Config) (session : Nat) (ev : SessionEvent) (o : Owner) (w : World) : Prop :=
  let r := callback cfg session ev w
  ∃ i, r.2 = some i ∧
    (i ∈ w.buf.queue → ∃ before after, w.buf.Oldest o i before after) ∧
    r.1.buf.ofOwner o = (if i ∈ w.buf.queue then w.buf.ofOwner o else i :: w.buf.ofOwner o) ∧
    r.1.buf.slot = setAt w.buf.slot i (ev.stored o (rmwUrosEpochNanos w) (w.buf.slot i))

/-- Below its depth the entity finds a free slot; at its depth it has a message to give up. -/
def Accommodates (w : World) (o : Owner) : Prop :=
  (w.ent.qos o).depth ≤ (w.buf.ofOwner o).length ∨ w.buf.queue.length < w.buf.staticBuffer.memory.size

instance (w : World) (o : Owner) : Decidable (Accommodates w o) :=
  inferInstanceAs (Decidable (_ ∨ _))

/-- At its depth the entity has a message stamped before the last representable time, where the search
for the oldest message starts from. -/
def Evictable (w : World) (o : Owner) : Prop :=
  (w.ent.qos o).depth ≤ (w.buf.ofOwner o).length →
    ∃ i ∈ w.buf.ofOwner o, (w.buf.slot i).timestamp < Machine64.int64Max

instance (w : World) (o : Owner) : Decidable (Evictable w o) :=
  inferInstanceAs (Decidable (_ → ∃ i ∈ w.buf.ofOwner o, _))

section Slot

variable {b : Buffers} {n : Nat} {o : Owner} {qos : RmwQosProfile}

/-- With a depth that is a bound, room means that it is not reached. -/
theorem room_iff (depth : 0 < qos.depth) {count : Nat} : Buffers.Room qos count ↔ count < qos.depth := by
  unfold Buffers.Room
  omega

variable {w : World}

/-- What is refused could not be accommodated. -/
theorem not_accommodates_of_refusal (history : (w.ent.qos o).history = .keepLast)
    (depth : 0 < (w.ent.qos o).depth) (early : Evictable w o) (why : w.buf.Refusal o (w.ent.qos o)) :
    ¬ Accommodates w o := by
  cases why with
  | exhausted below all =>
    rintro (reached | space)
    · exact absurd ((room_iff depth).1 below) (not_lt.2 reached)
    · exact absurd space (not_lt.2 all)
  | full _ all => exact absurd (history.symm.trans all) (by decide)
  | unreadable full late =>
    obtain ⟨i, hi, lt⟩ := early (not_lt.1 fun below => full ((room_iff depth).2 below))
    exact absurd (late i hi) (not_le.2 lt)

/-- What is granted could be accommodated. -/
theorem accommodates_of_grant (depth : 0 < (w.ent.qos o).depth) {i : Nat}
    (grant : w.buf.Grant o (w.ent.qos o) i) : Accommodates w o := by
  cases grant with
  | fresh _ _ space => exact .inr space
  | evict full _ _ => exact .inl (not_lt.1 fun below => full ((room_iff depth).2 below))

/-- The queue of an entity that is given a slot. -/
theorem ofOwner_stored {b' : Buffers} {ev : SessionEvent} {now : Int} {i : Nat}
    (grant : b.Grant o qos i) (queue : b'.queue = if i ∈ b.queue then b.queue else i :: b.queue)
    (slot : b'.slot = setAt b.slot i (ev.stored o now (b.slot i))) :
    b'.ofOwner o = if i ∈ b.queue then b.ofOwner o else i :: b.ofOwner o := by
  have own : (b'.slot i).owner = some o := by
    rw [slot, setAt_self]
    rfl
  have others : ∀ j, j ≠ i → (b'.slot j).owner = (b.slot j).owner := by
    intro j ne
    rw [slot, setAt_of_ne _ _ ne]
  have same : (b.queue.filter fun j => (b'.slot j).owner = some o) = b.ofOwner o := by
    refine List.filter_congr fun j hj => ?_
    by_cases e : j = i
    · rw [e] at hj ⊢
      rw [own, grant.owner_of_mem hj]
    · rw [others j e]
  rw [Buffers.ofOwner, queue]
  split
  · exact same
  · rw [List.filter_cons_of_pos (by simpa using own), same]

/-- One callback. -/
theorem keeps_iff_accommodates (ok : w.buf.Ok n) {session : Nat} {ev : SessionEvent}
    (meant : addressee cfg session ev w = some o) (read : ev.length ≤ ev.bytes.length)
    (history : (w.ent.qos o).history = .keepLast) (depth : 0 < (w.ent.qos o).depth)
    (early : Evictable w o) :
    (Keeps cfg session ev o w ↔ Accommodates w o) ∧
      (¬ Accommodates w o → (callback cfg session ev w).1.buf = w.buf) := by
  have eq := callback_eq cfg session ev w
  rw [meant] at eq
  dsimp only at eq
  rw [Keeps, eq]
  rcases ok.get_cases o (w.ent.qos o) with ⟨e, why⟩ | ⟨i, b', e, grant, -⟩
  · have refused : receive w o (w.ent.qos o) o.entityType ev.related ev.bytes ev.length = (w, none) := by
      simp only [receive, e]
    have not := not_accommodates_of_refusal history depth early why
    rw [refused]
    exact ⟨iff_of_false (by simp) not, fun _ => rfl⟩
  · have acc := accommodates_of_grant depth grant
    obtain ⟨-, -, -, reception⟩ := receive_spec ok o (w.ent.qos o) ev
    refine ⟨iff_of_true ?_ acc, fun not => absurd acc not⟩
    generalize receive w o (w.ent.qos o) o.entityType ev.related ev.bytes ev.length = r at reception ⊢
    obtain ⟨w', filled⟩ := r
    cases reception with
    | refused why => exact absurd acc (not_accommodates_of_refusal history depth early why)
    | unread _ _ short => exact absurd read (not_le.2 short)
    | stored i grant _ queue slot =>
      refine ⟨i, rfl, fun queued => ?_, ofOwner_stored grant queue slot, slot⟩
      cases grant with
      | fresh _ free _ => exact absurd queued free
      | evict _ _ oldest => exact oldest

end Slot

/-- **KEEP_LAST keeps the newest message** exactly as far as the pool or the depth allows: in every run, a
reception whose payload can be read ends with the new message in the queue of the entity if and only if
the entity holds as many messages as its depth says or the pool has a free slot, and is refused otherwise,
with the buffers as they were. The queues of all other entities are never changed. -/
theorem newest_kept_iff (is : List Step) (m : Moment) (hm : m ∈ (run cfg is).trace) (session : Nat)
    (ev : SessionEvent) (o : Owner) (meant : addressee cfg session ev m.world = some o)
    (read : ev.length ≤ ev.bytes.length) (history : (m.world.ent.qos o).history = .keepLast)
    (depth : 0 < (m.world.ent.qos o).depth) (early : Evictable m.world o) :
    (Keeps cfg session ev o m.world ↔ Accommodates m.world o) ∧
      (¬ Accommodates m.world o → (callback cfg session ev m.world).1.buf = m.world.buf) ∧
      ∀ p, p ≠ o → Buffers.SameQueue p m.world.buf (callback cfg session ev m.world).1.buf := by
  obtain ⟨s, wf, world⟩ := moment_state hm
  have ok : m.world.buf.Ok cfg.maxHistory := world ▸ wf.staticBuffer
  obtain ⟨-, -, -, delivery⟩ := callback_spec cfg session ev ok
  obtain ⟨iff, refused⟩ := keeps_iff_accommodates ok meant read history depth early
  refine ⟨iff, refused, fun p ne => delivery.sameQueue ok ?_⟩
  rw [meant]
  exact fun e => ne (Option.some.inj e).symm

/-- A subscription of depth 2 holds one message, and two of the three slots are free; then, with two
messages, it gives up the older one for a third. -/
theorem newest_kept_iff_room :
    let is := [Small.init 0, Small.createNode 1, Small.createSubscription 1 (Small.profile 2 ⟨0, 0⟩),
      Small.wait 1 [Small.sample 0 [7], Small.sample 0 [8], Small.sample 0 [9]]]
    ∀ x ∈ [8, 9], ∃ m ∈ (run Small.config is).trace, m.act = .callback 1 (Small.sample 0 [x]) ∧
      Keeps Small.config 1 (Small.sample 0 [x]) (.subscription 1) m.world := by
  intro is
  have reached : ∀ x ∈ [8, 9], ∃ m ∈ (run Small.config is).trace,
      m.act = .callback 1 (Small.sample 0 [x]) ∧
      addressee Small.config 1 (Small.sample 0 [x]) m.world = some (.subscription 1) ∧
      (Small.sample 0 [x]).length ≤ (Small.sample 0 [x]).bytes.length ∧
      (m.world.ent.qos (.subscription 1)).history = .keepLast ∧
      0 < (m.world.ent.qos (.subscription 1)).depth ∧ Evictable m.world (.subscription 1) ∧
      Accommodates m.world (.subscription 1) := by decide +kernel
  intro x mem
  obtain ⟨m, hm, act, meant, read, history, depth, early, room⟩ := reached x mem
  exact ⟨m, hm, act, (newest_kept_iff is m hm 1 _ _ meant read history depth early).1.2 room⟩

/-- A reception that fills no buffer does not keep the message. -/
theorem not_keeps_of_refused {session : Nat} {ev : SessionEvent} {o : Owner} {w : World}
    (refused : (callback cfg session ev w).2 = none) : ¬ Keeps cfg session ev o w := by
  rintro ⟨i, filled, -⟩
  cases refused.symm.trans filled

/-- A subscription of depth 2 with one message, while another one holds the other two slots: the next
sample for it is refused. -/
theorem newest_is_refused :
    ∃ m ∈ (run Small.config [Small.init 0, Small.createNode 1,
        Small.createSubscription 1 (Small.profile 2 ⟨0, 0⟩),
        Small.createSubscription 1 (Small.profile 2 ⟨0, 0⟩),
        Small.wait 1 [Small.sample 0 [7], Small.sample 1 [8], Small.sample 1 [9],
          Small.sample 0 [10]]]).trace,
      m.act = .callback 1 (Small.sample 0 [10]) ∧
      addressee Small.config 1 (Small.sample 0 [10]) m.world = some (.subscription 1) ∧
      m.world.ent.qos (.subscription 1) = Small.profile 2 ⟨0, 0⟩ ∧
      m.world.buf.ofOwner (.subscription 1) ≠ [] ∧
      ¬ Keeps Small.config 1 (Small.sample 0 [10]) (.subscription 1) m.world := by
  have exhausted : ∃ m ∈ (run Small.config [Small.init 0, Small.createNode 1,
        Small.createSubscription 1 (Small.profile 2 ⟨0, 0⟩),
        Small.createSubscription 1 (Small.profile 2 ⟨0, 0⟩),
        Small.wait 1 [Small.sample 0 [7], Small.sample 1 [8], Small.sample 1 [9],
          Small.sample 0 [10]]]).trace,
      m.act = .callback 1 (Small.sample 0 [10]) ∧
      addressee Small.config 1 (Small.sample 0 [10]) m.world = some (.subscription 1) ∧
      m.world.ent.qos (.subscription 1) = Small.profile 2 ⟨0, 0⟩ ∧
      m.world.buf.ofOwner (.subscription 1) ≠ [] ∧
      (callback Small.config 1 (Small.sample 0 [10]) m.world).2 = none := by decide
  obtain ⟨m, hm, act, meant, qos, holds, refused⟩ := exhausted
  exact ⟨m, hm, act, meant, qos, holds, not_keeps_of_refused refused⟩

end RmwMicroxrcedds
