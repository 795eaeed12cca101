import RmwMicroxrcedds.Proof.Views
import RmwMicroxrcedds.Base.Earliest

/-!
# The static buffers as queues

What each function over the static buffers does, in terms of the list of buffers in use and their
contents: the count, the search for the oldest, the grant of a slot, the three callbacks and the
release. Everything above this module reasons about lists.
-/

namespace RmwMicroxrcedds
set_option autoImplicit false

/-- The invariant of the buffer pool. -/
abbrev Buffers.Ok (b : Buffers) (n : Nat) : Prop := b.staticBuffer.Ok n

namespace Buffers

variable {b : Buffers} {n : Nat}

theorem Ok.data_eq (ok : b.Ok n) (i : Nat) : b.data i = b.slot i := by
  rw [data, ok.elem, slot]

theorem Ok.allocated (ok : b.Ok n) : b.staticBuffer.memory.allocated = b.queue := ok.allocated_eq

/-- The buffers of one owner, in list order. -/
def ofOwner (b : Buffers) (o : Owner) : List Nat := b.queue.filter fun i => (b.slot i).owner = some o

theorem mem_ofOwner {o : Owner} {i : Nat} :
    i ∈ b.ofOwner o ↔ i ∈ b.queue ∧ (b.slot i).owner = some o := by simp [ofOwner]

/-- The count of `rmw_uxrce_count_static_input_buffer_for_entity`. -/
theorem Ok.count_eq (ok : b.Ok n) (o : Owner) :
    rmwUxrceCountStaticInputBufferForEntity b (some o) = (b.ofOwner o).length := by
  rw [rmwUxrceCountStaticInputBufferForEntity, ok.allocated, ofOwner, ← List.countP_eq_length_filter]
  refine List.countP_congr fun i _ => ?_
  simp [owned, ok.data_eq]

/-- The buffer found by `rmw_uxrce_find_static_input_buffer_by_owner`: the first of the oldest. -/
abbrev Oldest (b : Buffers) (o : Owner) : Nat → List Nat → List Nat → Prop :=
  Earliest.First (fun i => (b.slot i).owner = some o) (fun i => (b.slot i).timestamp) b.queue

theorem Ok.scan_eq (ok : b.Ok n) (o : Owner) :
    scanOldest b (some o) =
      Earliest.scan (fun i => (b.slot i).owner = some o) fun i => (b.slot i).timestamp := by
  funext found i
  simp [scanOldest, Earliest.scan, owned, ok.data_eq]

theorem Ok.find_some (ok : b.Ok n) {o : Owner} {i : Nat}
    (h : rmwUxrceFindStaticInputBufferByOwner b (some o) = some i) :
    ∃ before after, b.Oldest o i before after ∧ (b.slot i).timestamp < Machine64.int64Max := by
  rw [rmwUxrceFindStaticInputBufferByOwner, ok.scan_eq, ok.allocated] at h
  exact Earliest.scan_eq_some h

theorem Ok.find_none (ok : b.Ok n) {o : Owner} :
    rmwUxrceFindStaticInputBufferByOwner b (some o) = none ↔
      ∀ i ∈ b.ofOwner o, Machine64.int64Max ≤ (b.slot i).timestamp := by
  rw [rmwUxrceFindStaticInputBufferByOwner, ok.scan_eq, ok.allocated, Earliest.scan_eq_none]
  simp only [mem_ofOwner, and_imp]

/-- A found buffer is in use and belongs to the owner searched for, also when that is NULL. -/
theorem Ok.find_mem (ok : b.Ok n) {o : Option Owner} {i : Nat}
    (h : rmwUxrceFindStaticInputBufferByOwner b o = some i) :
    i ∈ b.queue ∧ (b.slot i).owner = o := by
  have scan : scanOldest b o =
      Earliest.scan (fun i => (b.slot i).owner = o) fun i => (b.slot i).timestamp := by
    funext found i
    simp [scanOldest, Earliest.scan, owned, ok.data_eq]
  rw [rmwUxrceFindStaticInputBufferByOwner, scan, ok.allocated] at h
  obtain ⟨before, after, first, -⟩ := Earliest.scan_eq_some h
  exact ⟨first.mem, first.relevant⟩

/-! ## Release -/

theorem Ok.putMemory (ok : b.Ok n) {i : Nat} (h : i ∈ b.queue) :
    (b.putMemory i).Ok n ∧ (b.putMemory i).queue = b.queue.erase i := ok.put h

@[simp] theorem putMemory_slot (b : Buffers) (i : Nat) : (b.putMemory i).slot = b.slot := rfl
@[simp] theorem putMemory_graphInfo (b : Buffers) (i : Nat) :
    (b.putMemory i).graphInfo = b.graphInfo := rfl

/-! ## Writing -/

theorem Ok.write (ok : b.Ok n) (i : Nat) (f : StaticInputBuffer → StaticInputBuffer) :
    (b.write i f).Ok n := ok.of_memory rfl

@[simp] theorem write_queue (b : Buffers) (i : Nat) (f : StaticInputBuffer → StaticInputBuffer) :
    (b.write i f).queue = b.queue := rfl

theorem Ok.write_slot (ok : b.Ok n) (i : Nat) (f : StaticInputBuffer → StaticInputBuffer) :
    (b.write i f).slot = setAt b.slot i (f (b.slot i)) := by
  simp only [Buffers.write, Slots.update, ok.elem]
  rfl

/-! ## The grant of a slot -/

/-- There is room for one more buffer of an entity that has `count` of them. -/
def Room (qos : RmwQosProfile) (count : Nat) : Prop := qos.depth = 0 ∨ count < qos.depth

/-- How a slot is granted: a free one while the depth allows it, otherwise, unless the history is
KEEP_ALL, the oldest one of the entity. -/
inductive Grant (b : Buffers) (o : Owner) (qos : RmwQosProfile) (i : Nat) : Prop
  | fresh (room : Room qos (b.ofOwner o).length) (free : i ∉ b.queue)
      (space : b.queue.length < b.staticBuffer.memory.size)
  | evict (full : ¬ Room qos (b.ofOwner o).length) (history : qos.history ≠ .keepAll)
      (oldest : ∃ before after, b.Oldest o i before after)

/-- Why no slot is granted. -/
inductive Refusal (b : Buffers) (o : Owner) (qos : RmwQosProfile) : Prop
  | exhausted (room : Room qos (b.ofOwner o).length) (all : b.staticBuffer.memory.size ≤ b.queue.length)
  | full (full : ¬ Room qos (b.ofOwner o).length) (history : qos.history = .keepAll)
  | unreadable (full : ¬ Room qos (b.ofOwner o).length)
      (late : ∀ i ∈ b.ofOwner o, Machine64.int64Max ≤ (b.slot i).timestamp)

theorem Grant.owner_of_mem {o : Owner} {qos : RmwQosProfile} {i : Nat} (g : b.Grant o qos i)
    (h : i ∈ b.queue) : (b.slot i).owner = some o := by
  cases g with
  | fresh _ free _ => exact absurd h free
  | evict _ _ oldest =>
    obtain ⟨before, after, first⟩ := oldest
    exact first.relevant

theorem Ok.getMemory_none (ok : b.Ok n) (h : b.getMemory.1 = none) :
    b.getMemory.2 = b ∧ b.staticBuffer.memory.size ≤ b.queue.length := by
  have h' : b.staticBuffer.get.1 = none := by
    simpa [Buffers.getMemory, Slots.get] using h
  have same : b.staticBuffer.get.2 = b.staticBuffer := Slots.Ok.get_none ok h'
  refine ⟨?_, ?_⟩
  · calc b.getMemory.2 = { b with staticBuffer := b.staticBuffer.get.2 } := rfl
      _ = b := by rw [same]
  · by_contra lt
    have := Slots.Ok.get_isSome ok (not_le.1 lt)
    simp [h'] at this

theorem Ok.getMemory_some (ok : b.Ok n) {i : Nat} (h : b.getMemory.1 = some i) :
    b.getMemory.2.Ok n ∧ i ∉ b.queue ∧ b.queue.length < b.staticBuffer.memory.size ∧
      b.getMemory.2.queue = i :: b.queue ∧
      b.getMemory.2.slot = b.slot ∧ b.getMemory.2.graphInfo = b.graphInfo := by
  have h' : b.staticBuffer.get.1 = some i := by
    have e : b.staticBuffer.get.1 = b.getMemory.1.map b.getMemory.2.staticBuffer.memory.elem := rfl
    rw [e, h, Option.map_some]
    have elem : ∀ x, b.getMemory.2.staticBuffer.memory.elem x = x := by
      intro x
      have : b.getMemory.2.staticBuffer.memory.data = b.staticBuffer.memory.data := by
        obtain ⟨fs, r, -⟩ := ok.split
        cases fs with
        | nil => simp [Buffers.getMemory, r.getMemory_none]
        | cons x fs => simp [Buffers.getMemory, r.getMemory_some]
      rw [Mempool.elem, this]
      exact ok.elem x
    rw [elem]
  obtain ⟨ok', free, lt, e⟩ := Slots.Ok.get_some ok h'
  refine ⟨ok', free, ?_, e, rfl, rfl⟩
  exact Slots.Ok.length_lt ok free lt

/-- `rmw_uxrce_get_static_input_buffer_for_entity`. -/
theorem Ok.get_cases (ok : b.Ok n) (o : Owner) (qos : RmwQosProfile) :
    (rmwUxrceGetStaticInputBufferForEntity b o qos = (none, b) ∧ b.Refusal o qos) ∨
    ∃ i b', rmwUxrceGetStaticInputBufferForEntity b o qos = (some i, b') ∧ b.Grant o qos i ∧
      b'.Ok n ∧ b'.queue = (if i ∈ b.queue then b.queue else i :: b.queue) ∧
      b'.slot = b.slot ∧ b'.graphInfo = b.graphInfo := by
  have count := ok.count_eq o
  by_cases room : Room qos (b.ofOwner o).length
  · have e : rmwUxrceGetStaticInputBufferForEntity b o qos = b.getMemory := by
      have room' : qos.depth = 0 ∨ rmwUxrceCountStaticInputBufferForEntity b (some o) < qos.depth := by
        rwa [count]
      cases h : qos.history <;> simp [rmwUxrceGetStaticInputBufferForEntity, h, room']
    cases h : b.getMemory.1 with
    | none =>
      obtain ⟨same, all⟩ := ok.getMemory_none h
      refine .inl ⟨?_, .exhausted room all⟩
      exact e.trans (Prod.ext h same)
    | some i =>
      obtain ⟨ok', free, space, queue, slot, graph⟩ := ok.getMemory_some h
      refine .inr ⟨i, b.getMemory.2, ?_, .fresh room free space, ok', ?_, slot, graph⟩
      · rw [e, ← h]
      · rw [if_neg free, queue]
  · have full : ¬ (qos.depth = 0 ∨
        rmwUxrceCountStaticInputBufferForEntity b (some o) < qos.depth) := by rwa [count]
    by_cases history : qos.history = .keepAll
    · exact .inl ⟨by simp [rmwUxrceGetStaticInputBufferForEntity, history, full], .full room history⟩
    · have e : rmwUxrceGetStaticInputBufferForEntity b o qos =
          (rmwUxrceFindStaticInputBufferByOwner b (some o), b) := by
        cases h : qos.history <;> simp_all [rmwUxrceGetStaticInputBufferForEntity]
      cases h : rmwUxrceFindStaticInputBufferByOwner b (some o) with
      | none => exact .inl ⟨by rw [e, h], .unreadable room (ok.find_none.1 h)⟩
      | some i =>
        obtain ⟨before, after, oldest, -⟩ := ok.find_some h
        refine .inr ⟨i, b, by rw [e, h], .evict room history ⟨before, after, oldest⟩, ok, ?_, rfl, rfl⟩
        rw [if_pos oldest.mem]

end Buffers

/-! ## The callbacks -/

namespace SessionEvent

/-- What the reader of an event delivers. -/
def bytes : SessionEvent → List UInt8
  | .time _ => []
  | .topic _ ub _ | .request _ _ ub _ | .reply _ _ ub _ => ub

def length : SessionEvent → Nat
  | .time _ => 0
  | .topic _ _ length | .request _ _ _ length | .reply _ _ _ length => length

/-- The identity a sample comes with. -/
def related : SessionEvent → Option Related
  | .request _ sampleId _ _ => some (.sampleId sampleId)
  | .reply _ replyId _ _ => some (.replyId (BitVec.ofNat 64 (replyId % 65536)))
  | _ => none

/-- The kind of entity an event is for. -/
def Addresses : SessionEvent → Owner → Prop
  | .topic .., .subscription _ | .request .., .service _ | .reply .., .client _ => True
  | _, _ => False

theorem addresses_of_scanned {e : Entities} {ev : SessionEvent} {o : Owner}
    (h : o ∈ e.scanned ev) : ev.Addresses o := by
  cases ev <;> simp only [Entities.scanned, List.mem_map, List.not_mem_nil] at h
  all_goals
    obtain ⟨i, -, rfl⟩ := h
    trivial

/-- The buffer `d` once the sample of an event has been stored in it. -/
def stored (ev : SessionEvent) (o : Owner) (now : Int) (d : StaticInputBuffer) :
    StaticInputBuffer where
  buffer := (ucdrDeserializeArrayUint8T ev.bytes d.buffer ev.length).2
  length := ev.length
  owner := some o
  timestamp := now
  entityType := o.entityType
  related := ev.related.getD d.related

/-- A stored buffer presents exactly the bytes of the sample. -/
theorem stored_payload (ev : SessionEvent) (o : Owner) (now : Int) (d : StaticInputBuffer)
    (read : ev.length ≤ ev.bytes.length) :
    (ev.stored o now d).buffer.take (ev.stored o now d).length = ev.bytes.take ev.length := by
  simp only [stored, ucdrDeserializeArrayUint8T]
  rw [List.take_append_of_le_length (by simp [read]), List.take_take, min_self]

end SessionEvent

/-- What a reception for `o` does to the buffers. -/
inductive Reception (b : Buffers) (o : Owner) (qos : RmwQosProfile) (ev : SessionEvent) (now : Int)
    (b' : Buffers) : Option Nat → Prop
  | refused (why : b.Refusal o qos) (same : b' = b) : Reception b o qos ev now b' none
  | unread (i : Nat) (grant : b.Grant o qos i) (short : ev.bytes.length < ev.length)
      (queue : b'.queue = b.queue.erase i) (slot : ∀ j, j ≠ i → b'.slot j = b.slot j) :
      Reception b o qos ev now b' none
  | stored (i : Nat) (grant : b.Grant o qos i) (read : ev.length ≤ ev.bytes.length)
      (queue : b'.queue = if i ∈ b.queue then b.queue else i :: b.queue)
      (slot : b'.slot = setAt b.slot i (ev.stored o now (b.slot i))) :
      Reception b o qos ev now b' (some i)

/-- `receive`, by the item it is granted. -/
theorem receive_cases {w : World} {n : Nat} (ok : w.buf.Ok n) (o : Owner) (qos : RmwQosProfile)
    (ev : SessionEvent) :
    let granted := (rmwUxrceGetStaticInputBufferForEntity w.buf o qos).1
    let r := receive w o qos o.entityType ev.related ev.bytes ev.length
    r.1 = { w with buf := r.1.buf } ∧ r.1.buf.Ok n ∧
      ((granted = none ∧ w.buf.Refusal o qos ∧ r.1.buf = w.buf ∧ r.2 = none) ∨
      ∃ i, granted = some i ∧ w.buf.Grant o qos i ∧
        ((ev.bytes.length < ev.length ∧ r.2 = none ∧ r.1.buf.queue = w.buf.queue.erase i ∧
          ∀ j, j ≠ i → r.1.buf.slot j = w.buf.slot j) ∨
        (ev.length ≤ ev.bytes.length ∧ r.2 = some i ∧
          (r.1.buf.queue = if i ∈ w.buf.queue then w.buf.queue else i :: w.buf.queue) ∧
          r.1.buf.slot = setAt w.buf.slot i (ev.stored o (rmwUrosEpochNanos w) (w.buf.slot i))))) := by
  intro granted r
  rcases ok.get_cases o qos with ⟨e, why⟩ | ⟨i, b', e, grant, ok', queue, slot, -⟩
  · have hr : r = ({ w with buf := w.buf }, none) := by simp only [r, receive, e]
    rw [hr]
    exact ⟨rfl, ok, .inl ⟨congrArg Prod.fst e, why, rfl, rfl⟩⟩
  · have he : granted = some i := congrArg Prod.fst e
    let copy : StaticInputBuffer → StaticInputBuffer := fun d =>
      { d with buffer := (ucdrDeserializeArrayUint8T ev.bytes (b'.data i).buffer ev.length).2 }
    let fill : StaticInputBuffer → StaticInputBuffer := fun d =>
      { d with
        owner := some o, length := ev.length, related := ev.related.getD d.related
        timestamp := rmwUrosEpochNanos w, entityType := o.entityType }
    by_cases read : ev.length ≤ ev.bytes.length
    · have hr : r = ({ w with buf := (b'.write i copy).write i fill }, some i) := by
        simp only [r, receive, e]
        rw [if_pos (by simp [ucdrDeserializeArrayUint8T, read])]
      rw [hr]
      refine ⟨rfl, (ok'.write _ _).write _ _, .inr ⟨i, he, grant, .inr ⟨read, rfl, queue, ?_⟩⟩⟩
      rw [Buffers.Ok.write_slot (ok'.write _ _), ok'.write_slot, slot]
      funext j
      by_cases hj : j = i
      · subst hj
        simp [fill, copy, SessionEvent.stored, ok'.data_eq, slot]
      · simp [setAt_of_ne _ _ hj]
    · have hr : r = ({ w with buf := (b'.write i copy).putMemory i }, none) := by
        simp only [r, receive, e]
        rw [if_neg (by simpa [ucdrDeserializeArrayUint8T] using read)]
      have mem : i ∈ b'.queue := by
        rw [queue]
        split
        · assumption
        · simp
      obtain ⟨okp, erased⟩ := Buffers.Ok.putMemory (ok'.write i copy) (i := i) mem
      rw [hr]
      refine ⟨rfl, okp, .inr ⟨i, he, grant, .inl ⟨not_le.1 read, rfl, ?_, fun j hj => ?_⟩⟩⟩
      · rw [erased, Buffers.write_queue, queue]
        split
        · rfl
        · rw [List.erase_cons_head, List.erase_of_not_mem ‹_›]
      · rw [Buffers.putMemory_slot, ok'.write_slot, setAt_of_ne _ _ hj, slot]

/-- `receive` is a reception. -/
theorem receive_spec {w : World} {n : Nat} (ok : w.buf.Ok n) (o : Owner) (qos : RmwQosProfile)
    (ev : SessionEvent) :
    let r := receive w o qos o.entityType ev.related ev.bytes ev.length
    r.1.ent = w.ent ∧ r.1.uxrNanos = w.uxrNanos ∧ r.1.buf.Ok n ∧
      Reception w.buf o qos ev (rmwUrosEpochNanos w) r.1.buf r.2 := by
  intro r
  obtain ⟨world, ok', cases⟩ := receive_cases ok o qos ev
  have ent : r.1.ent = w.ent := (congrArg World.ent world : _)
  have nanos : r.1.uxrNanos = w.uxrNanos := (congrArg World.uxrNanos world : _)
  refine ⟨ent, nanos, ok', ?_⟩
  rcases cases with ⟨-, why, same, nothing⟩ |
    ⟨i, -, grant, ⟨short, nothing, queue, slot⟩ | ⟨read, filled, queue, slot⟩⟩
  · exact nothing ▸ .refused why same
  · exact nothing ▸ .unread i grant short queue slot
  · exact filled ▸ .stored i grant read queue slot

/-- A buffer in use that is not granted keeps its message. -/
theorem receive_spares {w : World} {n : Nat} (ok : w.buf.Ok n) (o : Owner) (qos : RmwQosProfile)
    (ev : SessionEvent) {i : Nat} (hi : i ∈ w.buf.queue)
    (other : (rmwUxrceGetStaticInputBufferForEntity w.buf o qos).1 ≠ some i) :
    let r := receive w o qos o.entityType ev.related ev.bytes ev.length
    i ∈ r.1.buf.queue ∧ r.1.buf.slot i = w.buf.slot i ∧ r.2 ≠ some i := by
  intro r
  obtain ⟨-, -, ⟨-, -, same, nothing⟩ | ⟨j, granted, -, cases⟩⟩ := receive_cases ok o qos ev
  · rw [show r.1.buf = w.buf from same, show r.2 = none from nothing]
    exact ⟨hi, rfl, by simp⟩
  · have ne : i ≠ j := fun e => other (e ▸ granted)
    rcases cases with ⟨-, nothing, queue, slot⟩ | ⟨-, filled, queue, slot⟩
    · rw [show r.1.buf.queue = _ from queue, show r.2 = none from nothing]
      exact ⟨(List.mem_erase_of_ne ne).2 hi, slot i ne, by simp⟩
    · rw [show r.1.buf.queue = _ from queue, show r.1.buf.slot = _ from slot, show r.2 = _ from filled,
        setAt_of_ne _ _ ne]
      refine ⟨?_, rfl, fun e => ne (Option.some.inj e).symm⟩
      split
      · exact hi
      · exact List.mem_cons_of_mem _ hi

/-- The entity a callback finds: the first of the scanned ones that carries the id. -/
def Entities.Finds (e : Entities) (ev : SessionEvent) (o : Owner) : Prop :=
  ∃ before after, e.scanned ev = before ++ o :: after ∧ ev.route = some (e.route o) ∧
    ∀ p ∈ before, ev.route ≠ some (e.route p)

theorem Entities.Finds.mem {e : Entities} {ev : SessionEvent} {o : Owner} (h : e.Finds ev o) :
    o ∈ e.scanned ev := by
  obtain ⟨before, after, scan, -⟩ := h
  simp [scan]

/-- The sample is one for the graph buffer of the session. -/
def graphSample (cfg : Config) (session : Nat) (w : World) : SessionEvent → Prop
  | .topic objectId _ _ => cfg.graph ∧ objectId = (w.buf.graphInfo session).datareaderId
  | _ => False

instance (cfg : Config) (session : Nat) (w : World) (ev : SessionEvent) :
    Decidable (graphSample cfg session w ev) :=
  match ev with
  | .topic .. => inferInstanceAs (Decidable (_ ∧ _))
  | .time _ | .request .. | .reply .. => inferInstanceAs (Decidable False)

/-- The entity that a callback is a reception for. -/
def addressee (cfg : Config) (session : Nat) (ev : SessionEvent) (w : World) : Option Owner :=
  if graphSample cfg session w ev then none
  else (w.ent.scanned ev).find? fun o => ev.route = some (w.ent.route o)

theorem finds_of_addressee {cfg : Config} {session : Nat} {ev : SessionEvent} {w : World} {o : Owner}
    (h : addressee cfg session ev w = some o) : w.ent.Finds ev o := by
  rw [addressee] at h
  split at h
  · cases h
  · obtain ⟨route, before, after, scan, none⟩ := List.find?_eq_some_iff_append.1 h
    exact ⟨before, after, scan, of_decide_eq_true route, fun p hp e => by simpa [e] using none p hp⟩

/-- What a callback does to the buffers: nothing, or a reception for the entity it finds. -/
inductive Delivery (cfg : Config) (session : Nat) (w : World) (ev : SessionEvent) (b' : Buffers) :
    Option Nat → Prop
  | ignored (nobody : addressee cfg session ev w = none)
      (same : b'.staticBuffer = w.buf.staticBuffer) : Delivery cfg session w ev b' none
  | routed (o : Owner) {filled : Option Nat} (meant : addressee cfg session ev w = some o)
      (reception : Reception w.buf o (w.ent.qos o) ev (rmwUrosEpochNanos w) b' filled) :
      Delivery cfg session w ev b' filled

/-- A delivery that fills a buffer is for the entity found, by a grant, and of the whole sample. -/
theorem Delivery.filled {cfg : Config} {session : Nat} {w : World} {ev : SessionEvent} {b' : Buffers}
    {i : Nat} (h : Delivery cfg session w ev b' (some i)) :
    ∃ o, w.ent.Finds ev o ∧ w.buf.Grant o (w.ent.qos o) i ∧ ev.length ≤ ev.bytes.length ∧
      b'.slot i = ev.stored o (rmwUrosEpochNanos w) (w.buf.slot i) := by
  cases h with
  | routed o meant reception =>
    cases reception with
    | stored i grant read queue slot =>
      exact ⟨o, finds_of_addressee meant, grant, read, by rw [slot, setAt_self]⟩

/-- The scan of a callback, over the elements of one kind. -/
theorem addressee_eq {cfg : Config} {session : Nat} {ev : SessionEvent} {w : World} {l : List Nat}
    (f : Nat → Owner) (p : Nat → Bool) (graph : ¬ graphSample cfg session w ev)
    (scan : w.ent.scanned ev = l.map f) (same : ∀ i, p i = decide (ev.route = some (w.ent.route (f i)))) :
    addressee cfg session ev w = (l.find? p).map f := by
  rw [addressee, if_neg graph, scan, List.find?_map]
  congr 2
  funext i
  exact (same i).symm

/-- `on_topic`, `on_request` and `on_reply`: a reception for the addressee, where there is one. -/
theorem callback_eq (cfg : Config) (session : Nat) (ev : SessionEvent) (w : World) :
    callback cfg session ev w =
      match addressee cfg session ev w with
      | some o => receive w o (w.ent.qos o) o.entityType ev.related ev.bytes ev.length
      | none =>
        if graphSample cfg session w ev then (onGraph session ev.bytes ev.length w, none) else (w, none) := by
  cases ev with
  | time d => rfl
  | topic objectId ub length =>
    by_cases graph : cfg.graph ∧ objectId = (w.buf.graphInfo session).datareaderId
    · have nobody : addressee cfg session (.topic objectId ub length) w = none := if_pos graph
      have sample : graphSample cfg session w (.topic objectId ub length) := graph
      rw [nobody]
      simp only [callback, onTopic, if_pos graph, if_pos sample]
      rfl
    · have found : addressee cfg session (.topic objectId ub length) w = _ := addressee_eq .subscription
        (fun i => (w.ent.subscription.custom i).datareaderId = objectId) graph rfl
        fun i => by simp [SessionEvent.route, Entities.route, eq_comm]
      have other : ¬ graphSample cfg session w (.topic objectId ub length) := graph
      rw [found]
      simp only [callback, onTopic, if_neg graph]
      cases w.ent.subscription.elements.find? fun i =>
          (w.ent.subscription.custom i).datareaderId = objectId with
      | none => exact (if_neg other).symm
      | some i => rfl
  | request requestId sampleId ub length =>
    have found : addressee cfg session (.request requestId sampleId ub length) w = _ :=
      addressee_eq .service (fun i => (w.ent.service.custom i).serviceDataResquest = requestId) id rfl
        fun i => by simp [SessionEvent.route, Entities.route, eq_comm]
    rw [found]
    simp only [callback, onRequest]
    cases w.ent.service.elements.find? fun i =>
        (w.ent.service.custom i).serviceDataResquest = requestId with
    | none => rfl
    | some i => rfl
  | reply requestId replyId ub length =>
    have found : addressee cfg session (.reply requestId replyId ub length) w = _ :=
      addressee_eq .client (fun i => (w.ent.client.custom i).clientDataRequest = requestId) id rfl
        fun i => by simp [SessionEvent.route, Entities.route, eq_comm]
    rw [found]
    simp only [callback, onReply]
    cases w.ent.client.elements.find? fun i =>
        (w.ent.client.custom i).clientDataRequest = requestId with
    | none => rfl
    | some i => rfl

/-- What a callback does. -/
theorem callback_spec {w : World} {n : Nat} (cfg : Config) (session : Nat) (ev : SessionEvent)
    (ok : w.buf.Ok n) :
    let r := callback cfg session ev w
    r.1.ent = w.ent ∧ r.1.uxrNanos = w.uxrNanos ∧ r.1.buf.Ok n ∧
      Delivery cfg session w ev r.1.buf r.2 := by
  intro r
  have hr : r = _ := callback_eq cfg session ev w
  cases meant : addressee cfg session ev w with
  | some o =>
    simp only [meant] at hr
    rw [hr]
    obtain ⟨ent, nanos, ok', reception⟩ := receive_spec ok o (w.ent.qos o) ev
    exact ⟨ent, nanos, ok', .routed o meant reception⟩
  | none =>
    simp only [meant] at hr
    rw [hr]
    split
    · exact ⟨rfl, rfl, ok, .ignored meant rfl⟩
    · exact ⟨rfl, rfl, ok, .ignored meant rfl⟩

end RmwMicroxrcedds
