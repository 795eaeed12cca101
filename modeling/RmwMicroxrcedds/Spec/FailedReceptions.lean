import RmwMicroxrcedds.Proof.Queues

/-!
# Receptions that fail

A callback that does not store its sample is meant to leave what was received before alone. It does
while the slot granted is a free one. Under KEEP_LAST at full depth the slot is that of the oldest
message queued, which the failure branch releases like a fresh one. The graph branch looks at the
result of the read not at all.
-/

namespace RmwMicroxrcedds
set_option autoImplicit false

variable {cfg : Config}

/-- The graph held for a session: the bytes of its buffer, which starts zeroed, their number, and the
flag. -/
def GraphInfo.held (g : GraphInfo) : (Nat → UInt8) × Nat × Bool :=
  (fun i => g.microBuffer.getD i 0, g.microBufferLength, g.initialized)

/-- The reader ends before the sample does. -/
def SessionEvent.Short (ev : SessionEvent) : Prop := ev.bytes.length < ev.length

instance (ev : SessionEvent) : Decidable ev.Short := inferInstanceAs (Decidable (_ < _))

/-- A callback that stores nothing leaves the queue of every entity alone, and a graph sample that
cannot be read leaves the graph alone. -/
def KeepsStored (cfg : Config) (m : Moment) : Prop :=
  ∀ c ∈ m.act.callback?,
    let r := callback cfg c.1 c.2 m.world
    (r.2 = none → ∀ o, Buffers.SameQueue o m.world.buf r.1.buf) ∧
    (graphSample cfg c.1 m.world c.2 → c.2.Short →
      (r.1.buf.graphInfo c.1).held = (m.world.buf.graphInfo c.1).held)

/-- The slot a reception for the entity is granted, if any, is a free one. -/
def Buffers.Spares (b : Buffers) (o : Owner) (qos : RmwQosProfile) : Prop :=
  Buffers.Room qos (b.ofOwner o).length ∨ qos.history = .keepAll ∨
    ∀ i ∈ b.ofOwner o, Machine64.int64Max ≤ (b.slot i).timestamp

/-- What the graph branch writes is what is there: a graph was stored, as long as the sample, and
begins with the bytes the reader delivers. -/
def GraphInfo.Repeats (g : GraphInfo) (ev : SessionEvent) : Prop :=
  g.initialized = true ∧ ev.length = g.microBufferLength ∧
    ∀ i < ev.bytes.length, ev.bytes.getD i 0 = g.microBuffer.getD i 0

instance (b : Buffers) (o : Owner) (qos : RmwQosProfile) : Decidable (b.Spares o qos) :=
  inferInstanceAs (Decidable (_ ∨ _ ∨ ∀ i ∈ b.ofOwner o, _))

instance (g : GraphInfo) (ev : SessionEvent) : Decidable (g.Repeats ev) :=
  inferInstanceAs (Decidable (_ ∧ _ ∧ ∀ i < ev.bytes.length, _))

/-- A sample that cannot be read meets a free slot, or a graph it does not change. -/
def Harmless (cfg : Config) (m : Moment) : Prop :=
  ∀ c ∈ m.act.callback?, c.2.Short →
    (∀ o ∈ addressee cfg c.1 c.2 m.world, m.world.buf.Spares o (m.world.ent.qos o)) ∧
    (graphSample cfg c.1 m.world c.2 → (m.world.buf.graphInfo c.1).Repeats c.2)

instance (cfg : Config) (m : Moment) : Decidable (Harmless cfg m) :=
  inferInstanceAs (Decidable (∀ c ∈ m.act.callback?, _ → (∀ o ∈ _, _) ∧ _))

/-! ## Queues -/

section Queues

variable {b b' : Buffers} {n : Nat} {o : Owner} {qos : RmwQosProfile} {ev : SessionEvent} {now : Int}

/-- A slot in use stays granted to its owner, unless it is released. -/
theorem Reception.sameQueue_of_free {filled : Option Nat} (h : Reception b o qos ev now b' filled)
    (nothing : filled = none) (free : ev.Short → ∀ i, b.Grant o qos i → i ∉ b.queue) :
    Buffers.SameQueue o b b' := by
  cases h with
  | refused why same =>
    rw [same]
    exact ⟨rfl, fun _ _ => rfl⟩
  | unread i grant short queue slot =>
    have unused := free short i grant
    have queue' : b'.queue = b.queue := queue.trans (List.erase_of_not_mem unused)
    have slot' : ∀ j ∈ b.queue, b'.slot j = b.slot j := fun j hj =>
      slot j fun e => unused (e ▸ hj)
    constructor
    · rw [Buffers.ofOwner, queue', Buffers.ofOwner]
      apply List.filter_congr
      intro j hj
      rw [slot' j hj]
    · intro j hj
      exact slot' j (Buffers.mem_ofOwner.1 hj).1
  | stored i grant read queue slot => cases nothing

/-- At full depth, unless the history is KEEP_ALL, a failing read costs the oldest message. -/
theorem Reception.not_sameQueue_of_full (ok : b.Ok n) {filled : Option Nat}
    (h : Reception b o qos ev now b' filled) (short : ev.Short)
    (full : ¬ Buffers.Room qos (b.ofOwner o).length) (history : qos.history ≠ .keepAll)
    (found : ∃ i ∈ b.ofOwner o, (b.slot i).timestamp < Machine64.int64Max) :
    filled = none ∧ ¬ Buffers.SameQueue o b b' := by
  cases h with
  | refused why same =>
    cases why with
    | exhausted room all => exact absurd room full
    | full _ all => exact absurd all history
    | unreadable _ late =>
      obtain ⟨i, hi, early⟩ := found
      exact absurd early (not_lt.2 (late i hi))
  | unread i grant _ queue slot =>
    refine ⟨rfl, fun same => ?_⟩
    cases grant with
    | fresh room free space => exact absurd room full
    | evict _ _ oldest =>
      obtain ⟨front, back, first⟩ := oldest
      have own : i ∈ b.ofOwner o := Buffers.mem_ofOwner.2 ⟨first.mem, first.relevant⟩
      have kept : i ∈ b'.queue := (Buffers.mem_ofOwner.1 (same.ofOwner ▸ own)).1
      have nodup : b.queue.Nodup := Slots.Ok.nodup ok
      rw [queue] at kept
      exact (nodup.mem_erase_iff.1 kept).1 rfl
  | stored i grant read queue slot => exact absurd read (not_le.2 short)

/-- With no buffer the search can find, a reception at full depth is refused. -/
theorem receive_of_late {w : World} (ok : w.buf.Ok n)
    (full : ¬ Buffers.Room qos (w.buf.ofOwner o).length) (history : qos.history ≠ .keepAll)
    (late : ∀ i ∈ w.buf.ofOwner o, Machine64.int64Max ≤ (w.buf.slot i).timestamp)
    (entityType : EntityType) (related : Option Related) (ub : List UInt8) (length : Nat) :
    receive w o qos entityType related ub length = (w, none) := by
  have find : rmwUxrceFindStaticInputBufferByOwner w.buf (some o) = none := (ok.find_none).2 late
  have count : ¬ (qos.depth = 0 ∨
      rmwUxrceCountStaticInputBufferForEntity w.buf (some o) < qos.depth) := by
    rwa [ok.count_eq]
  have get : rmwUxrceGetStaticInputBufferForEntity w.buf o qos = (none, w.buf) := by
    rw [rmwUxrceGetStaticInputBufferForEntity]
    cases h : qos.history with
    | keepAll => exact absurd h history
    | _ => simp only [if_neg count, find]
  rw [receive, get]

/-- A callback with an addressee is a reception for it. -/
theorem Delivery.reception {w : World} {session : Nat} {filled : Option Nat}
    (h : Delivery cfg session w ev b' filled) (meant : addressee cfg session ev w = some o) :
    Reception w.buf o (w.ent.qos o) ev (rmwUrosEpochNanos w) b' filled := by
  cases h with
  | ignored nobody => exact absurd (nobody.symm.trans meant) (by simp)
  | routed p meant' reception =>
    obtain rfl := Option.some.inj (meant.symm.trans meant')
    exact reception

/-- The queues after a callback that stored nothing. -/
theorem sameQueues_iff {w : World} (ok : w.buf.Ok n) (session : Nat) (ev : SessionEvent) :
    ((callback cfg session ev w).2 = none →
        ∀ o, Buffers.SameQueue o w.buf (callback cfg session ev w).1.buf) ↔
      (ev.Short → ∀ o ∈ addressee cfg session ev w, w.buf.Spares o (w.ent.qos o)) := by
  obtain ⟨-, -, -, delivery⟩ := callback_spec (w := w) cfg session ev ok
  constructor
  · intro same short o meant
    by_contra lost
    simp only [Buffers.Spares, not_or, not_forall, not_le] at lost
    obtain ⟨full, history, i, hi, early⟩ := lost
    obtain ⟨nothing, changed⟩ :=
      (delivery.reception meant).not_sameQueue_of_full ok short full history ⟨i, hi, early⟩
    exact changed (same nothing o)
  · intro spares nothing p
    by_cases meant : addressee cfg session ev w = some p
    · by_cases late : ¬ Buffers.Room (w.ent.qos p) (w.buf.ofOwner p).length ∧
          (w.ent.qos p).history ≠ .keepAll ∧
          ∀ i ∈ w.buf.ofOwner p, Machine64.int64Max ≤ (w.buf.slot i).timestamp
      · rw [callback_eq, meant]
        simp only [receive_of_late ok late.1 late.2.1 late.2.2]
        exact ⟨rfl, fun _ _ => rfl⟩
      · apply (delivery.reception meant).sameQueue_of_free nothing
        intro short i grant
        cases grant with
        | fresh room free space => exact free
        | evict full history oldest =>
          rcases spares short p meant with room | all | stamps
          · exact absurd room full
          · exact absurd all history
          · exact absurd ⟨full, history, stamps⟩ late
    · exact delivery.sameQueue ok meant

end Queues

/-! ## The graph -/

/-- The bytes of the graph buffer after the graph branch. -/
theorem getD_ucdrDeserializeArrayUint8T (ub array : List UInt8) (length i : Nat)
    (short : ub.length < length) :
    (ucdrDeserializeArrayUint8T ub array length).2.getD i 0 =
      if i < ub.length then ub.getD i 0 else array.getD i 0 := by
  have whole : ub.take length = ub := List.take_of_length_le (le_of_lt short)
  simp only [ucdrDeserializeArrayUint8T, whole, List.getD_eq_getElem?_getD]
  split
  · rw [List.getElem?_append_left ‹_›]
  · rw [List.getElem?_append_right (not_lt.1 ‹_›), List.getElem?_drop]
    congr 2
    omega

/-- A graph sample that cannot be read leaves the graph as it was just when it repeats it. -/
theorem held_iff {w : World} {session : Nat} {ev : SessionEvent}
    (graph : graphSample cfg session w ev) (short : ev.Short) :
    ((callback cfg session ev w).1.buf.graphInfo session).held = (w.buf.graphInfo session).held ↔
      (w.buf.graphInfo session).Repeats ev := by
  have nobody : addressee cfg session ev w = none := if_pos graph
  rw [callback_eq, nobody]
  simp only [if_pos graph, onGraph, setAt_self, GraphInfo.held, GraphInfo.Repeats, Prod.mk.injEq,
    getD_ucdrDeserializeArrayUint8T _ _ _ _ short, funext_iff]
  constructor
  · rintro ⟨bytes, length, initialized⟩
    refine ⟨initialized.symm, length, fun i hi => ?_⟩
    have byte := bytes i
    rwa [if_pos hi] at byte
  · rintro ⟨initialized, length, bytes⟩
    refine ⟨fun i => ?_, length, initialized.symm⟩
    split
    · exact bytes i ‹_›
    · rfl

/-- One callback on buffers that are in order. -/
theorem keepsStored_iff {m : Moment} {n : Nat} (ok : m.world.buf.Ok n) :
    KeepsStored cfg m ↔ Harmless cfg m := by
  constructor
  · intro keeps c hc short
    obtain ⟨queues, graph⟩ := keeps c hc
    constructor
    · exact (sameQueues_iff ok c.1 c.2).1 queues short
    · intro sample
      exact (held_iff sample short).1 (graph sample short)
  · intro harmless c hc
    constructor
    · exact (sameQueues_iff ok c.1 c.2).2 fun short => (harmless c hc short).1
    · intro sample short
      exact (held_iff sample short).2 ((harmless c hc short).2 sample)

theorem keepsStored_iff_of_mem {is : List Step} {m : Moment} (hm : m ∈ (run cfg is).trace) :
    KeepsStored cfg m ↔ Harmless cfg m := by
  obtain ⟨s, wf, world⟩ := moment_state hm
  have ok : m.world.buf.Ok cfg.maxHistory := world ▸ wf.staticBuffer
  exact keepsStored_iff ok

/-- **Failed receptions.** At every callback of every run, what was stored before is intact after it
if and only if a sample that cannot be read met a free slot, or repeats the graph. -/
theorem failed_reception_keeps_iff (is : List Step) :
    ∀ m ∈ (run cfg is).trace, KeepsStored cfg m ↔ Harmless cfg m := by
  intro m hm
  exact keepsStored_iff_of_mem hm

/-- A subscription of depth 2 holds one message when a sample arrives that ends early, and keeps it. -/
theorem failed_reception_keeps_iff_room :
    let is := [Small.init 0, Small.createNode 1, Small.createSubscription 1 (Small.profile 2 ⟨0, 0⟩),
      Small.wait 1 [Small.sample 0 [7], .topic ⟨0, .datareader⟩ [] 1]]
    (∀ m ∈ (run Small.config is).trace, Harmless Small.config m) ∧
      ∀ m ∈ (run Small.config is).trace, KeepsStored Small.config m := by
  intro is
  have harmless : ∀ m ∈ (run Small.config is).trace, Harmless Small.config m := by decide
  exact ⟨harmless, fun m hm => (failed_reception_keeps_iff is m hm).2 (harmless m hm)⟩

/-- A subscription of depth 1 holds a message when a sample arrives that ends early, and loses it; a
graph sample without bytes counts as a graph. -/
theorem failed_reception_loses_message :
    let begin := [Small.init 0, Small.createNode 1, Small.createSubscription 1 (Small.profile 1 ⟨0, 0⟩)]
    let short := SessionEvent.topic ⟨0, .datareader⟩ [] 1
    (¬ ∀ m ∈ (run Small.config (begin ++ [Small.wait 1 [Small.sample 0 [7], short]])).trace,
        KeepsStored Small.config m) ∧
      ¬ ∀ m ∈ (run Small.graphConfig (begin ++ [Small.wait 1 [short]])).trace,
        KeepsStored Small.graphConfig m := by
  intro begin short
  constructor
  · intro all
    have harmless := fun m hm => (keepsStored_iff_of_mem hm).1 (all m hm)
    revert harmless
    decide
  · intro all
    have harmless := fun m hm => (keepsStored_iff_of_mem hm).1 (all m hm)
    revert harmless
    decide +kernel

end RmwMicroxrcedds
