import RmwMicroxrcedds.Concurrent.Buffers

/-!
# The static buffers under concurrent calls

Any number of threads run callbacks, cleanings, takes and searches on the static buffers, and move one access at
a time, in any order.
-/

namespace RmwMicroxrcedds.Concurrent
set_option autoImplicit false
open Threads Threads.Code

variable {Tid : Type} [DecidableEq Tid]

inductive BufferOp where
  /-- a callback that has found its entity -/
  | receive (v : Outside) (owner : Owner) (ev : SessionEvent)
  | clean (v : Outside)
  /-- a take after its cleaning -/
  | take (owner : Option Owner) (header : Related → TakeHeader) (cdrDeserialize : List UInt8 → Bool)
  /-- `rmw_wait` looks whether an entity has a message -/
  | find (owner : Option Owner)

inductive BufferResult where
  | received (filled : Option Nat)
  | cleaned
  | took (r : TakeResult)
  | found (item : Option Nat)
deriving DecidableEq

def BufferOp.code : BufferOp → Code Buffers BufferResult
  | .receive v owner ev => do
    let filled ← receiveSample v owner ev
    return .received filled
  | .clean v => do
    cleanExpired v
    return .cleaned
  | .take owner header cdrDeserialize => do
    let r ← takeBuffer owner header cdrDeserialize
    return .took r
  | .find owner => do
    let item ← findByOwner owner
    return .found item

/-- Calls under the mutex of `static_buffer_memory`. -/
def bufferProgram : Program Unit BufferOp Buffers BufferResult where
  mutex _ := ()
  code := BufferOp.code

/-- The same functions, called one after another. -/
def buffers : Object BufferOp Buffers BufferResult where
  result op b := match op with
    | .receive v owner ev => .received
        (receive (v.world b) owner (v.ent.qos owner) owner.entityType ev.related ev.bytes ev.length).2
    | .clean _ => .cleaned
    | .take owner header cdrDeserialize => .took (takeFound b owner header cdrDeserialize).1
    | .find owner => .found (rmwUxrceFindStaticInputBufferByOwner b owner)
  held _ _ := 0
  next op b := match op with
    | .receive v owner ev =>
        (receive (v.world b) owner (v.ent.qos owner) owner.entityType ev.related ev.bytes ev.length).1.buf
    | .clean v => (rmwUxrceCleanExpiredStaticInputBuffer (v.state b)).2.w.buf
    | .take owner header cdrDeserialize => (takeFound b owner header cdrDeserialize).2
    | .find _ => b

/-- The buffers once `rmw_init` has set up their pool. -/
def initial (size : Nat) : Buffers :=
  { Buffers.zero with staticBuffer := Buffers.zero.staticBuffer.init size }

theorem initial_ok (size : Nat) : (initial size).Ok size := (Slots.Ok.init (Slots.zero_ok size)).1

theorem Static.of_ok {b : Buffers} {n : Nat} (ok : b.Ok n) : Static b := ok.static

/-! ## What the functions do, one after another -/

section Sequential

variable {b : Buffers} {n : Nat}

/-- The cleaning keeps what has not expired. -/
theorem clean_buffers (ok : b.Ok n) (v : Outside) :
    (buffers.next (.clean v) b).Ok n ∧
      (buffers.next (.clean v) b).queue = b.queue.filter (fun i => ¬ expired v.ent v.epochNanos (b.slot i)) ∧
      (buffers.next (.clean v) b).slot = b.slot := by
  have treated := cleanItems_rule (s := v.state b) (n := n) (I := fun s => s.w.buf.Ok n)
    (fun t i ok' _ mem => (?_ : (cleanItem v.epochNanos t i).w.buf.Ok n)) ok ok [] b.queue rfl
  · obtain ⟨ok', queue, slot, -⟩ := treated
    have walk := clean_eq (s := v.state b) ok
    show (rmwUxrceCleanExpiredStaticInputBuffer (v.state b)).2.w.buf.Ok n ∧ _
    have next : buffers.next (.clean v) b = (rmwUxrceCleanExpiredStaticInputBuffer (v.state b)).2.w.buf := rfl
    rw [next, walk]
    exact ⟨ok', queue, slot⟩
  · obtain ⟨kept, rest, queue⟩ := List.append_of_mem mem
    exact (cleanItem_spec v.epochNanos ok' queue).1

/-- A take releases the buffer it finds. -/
theorem take_buffers (ok : b.Ok n) (owner : Option Owner) (header : Related → TakeHeader)
    (cdrDeserialize : List UInt8 → Bool) :
    let r := takeFound b owner header cdrDeserialize
    r.2.Ok n ∧ r.2.slot = b.slot ∧
      ((rmwUxrceFindStaticInputBufferByOwner b owner = none ∧ r.1.payload = none ∧ r.2 = b) ∨
      ∃ i, rmwUxrceFindStaticInputBufferByOwner b owner = some i ∧ i ∈ b.queue ∧ (b.slot i).owner = owner ∧
        r.1.payload = some ((b.slot i).buffer.take (b.slot i).length) ∧
        r.1.header = header (b.slot i).related ∧ r.2.queue = b.queue.erase i) := by
  intro r
  have unfold : r = takeFound b owner header cdrDeserialize := rfl
  rw [takeFound] at unfold
  cases found : rmwUxrceFindStaticInputBufferByOwner b owner with
  | none =>
    rw [found] at unfold
    rw [unfold]
    exact ⟨ok, rfl, .inl ⟨rfl, rfl, rfl⟩⟩
  | some i =>
    obtain ⟨queued, same⟩ := Buffers.Ok.find_mem ok found
    obtain ⟨ok', queue⟩ := Buffers.Ok.putMemory ok queued
    rw [found] at unfold
    rw [unfold]
    refine ⟨ok', rfl, .inr ⟨i, rfl, queued, same, ?_, ?_, queue⟩⟩
    · rw [← Buffers.Ok.data_eq ok]
    · rw [← Buffers.Ok.data_eq ok]

theorem buffers_ok (ok : b.Ok n) (op : BufferOp) : (buffers.next op b).Ok n := by
  cases op with
  | receive v owner ev => exact (receive_spec (w := v.world b) ok owner (v.ent.qos owner) ev).2.2.1
  | clean v => exact (clean_buffers ok v).1
  | take owner header cdrDeserialize => exact (take_buffers ok owner header cdrDeserialize).1
  | find owner => exact ok

end Sequential

/-! ## One order -/

/-- Alone, the code of the functions does what the functions do. -/
theorem buffers_agree (n : Nat) : Agrees bufferProgram.object buffers fun b => b.Ok n where
  keeps op b ok := buffers_ok ok op
  result op b ok := by
    cases op with
    | receive v owner ev =>
      simp [Program.object, bufferProgram, BufferOp.code, buffers, receiveSample_alone v (.of_ok ok)]
    | clean v => simp [Program.object, bufferProgram, BufferOp.code, buffers]
    | take owner header cdrDeserialize =>
      simp [Program.object, bufferProgram, BufferOp.code, buffers, takeBuffer_alone (.of_ok ok)]
    | find owner => simp [Program.object, bufferProgram, BufferOp.code, buffers, findByOwner_alone]
  held op b ok := by
    cases op with
    | receive v owner ev =>
      simp [Program.object, bufferProgram, BufferOp.code, buffers, (receiveSample_closed v owner ev).kept_eq]
    | clean v => simp [Program.object, bufferProgram, BufferOp.code, buffers, (cleanExpired_closed v).kept_eq]
    | take owner header cdrDeserialize =>
      simp [Program.object, bufferProgram, BufferOp.code, buffers,
        (takeBuffer_closed owner header cdrDeserialize).kept_eq]
    | find owner => simp [Program.object, bufferProgram, BufferOp.code, buffers, (findByOwner_closed owner).kept_eq]
  next op b ok := by
    cases op with
    | receive v owner ev =>
      simp [Program.object, bufferProgram, BufferOp.code, buffers, receiveSample_alone v (.of_ok ok)]
    | clean v => simp [Program.object, bufferProgram, BufferOp.code, buffers, cleanExpired_alone v (.of_ok ok)]
    | take owner header cdrDeserialize =>
      simp [Program.object, bufferProgram, BufferOp.code, buffers, takeBuffer_alone (.of_ok ok)]
    | find owner => simp [Program.object, bufferProgram, BufferOp.code, buffers, findByOwner_alone]

theorem bufferProgram_guarded (op : BufferOp) : (bufferProgram.code op).Guarded False := by
  cases op with
  | receive v owner ev => exact (receiveSample_closed v owner ev).guarded.map _
  | clean v => exact (cleanExpired_closed v).guarded.map _
  | take owner header cdrDeserialize => exact (takeBuffer_closed owner header cdrDeserialize).guarded.map _
  | find owner => exact (findByOwner_closed owner).guarded.map _

/-- The threads after a schedule. -/
def threads (size : Nat) (is : List (Tid × BufferOp)) : System Tid Unit BufferOp Buffers BufferResult :=
  Runs.exec (Threads.step bufferProgram) (.start fun _ => initial size) is

/-- **Callbacks, cleanings, takes and searches on the static buffers act like calls one after another**, under
every schedule: they give back what the functions give back in the order in which they took the mutex, a call
made after another one had returned comes after it, while no call is inside the buffers are what these calls
make of them, and every call under way can return. -/
theorem buffers_linearizable (size : Nat) (is : List (Tid × BufferOp)) :
    let s := threads size is
    let order := entries bufferProgram () s.events
    Linearizes bufferProgram buffers (initial size) () s.events order ∧
      (s.Quiet bufferProgram () → s.memory () = replay buffers (initial size) order) ∧
      ∀ t call, s.running t = some call →
        ∃ js a held, .returned call.number t call.op a held ∈ (threads size (is ++ js)).events := by
  intro s order
  have agree := buffers_agree size
  obtain ⟨lin, settled⟩ := @linearizable _ _ _ _ _ _ _ bufferProgram (fun _ => initial size) _
    bufferProgram_guarded is ()
  refine ⟨agree.linearizes (initial_ok size) lin, fun quiet => ?_, ?_⟩
  · rw [← (agree.replay (initial_ok size) order).1]
    exact settled quiet
  · rintro t ⟨n, op, held, code⟩ under_way
    exact can_return bufferProgram_guarded is under_way

end RmwMicroxrcedds.Concurrent
