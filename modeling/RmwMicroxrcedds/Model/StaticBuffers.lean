import RmwMicroxrcedds.Model.Pools

/-!
# `time_sync.c` and the static input buffers of `types.c`

The received messages of all entities share one pool of buffers. A buffer belongs to the entity
whose address its `owner` holds; the queue of an entity is the set of allocated buffers it owns,
ordered by their timestamps.
-/

namespace RmwMicroxrcedds
set_option autoImplicit false

/-- `rmw_uros_epoch_nanos`: the reading of whichever session heads the allocated list. -/
def rmwUrosEpochNanos (w : World) : Int :=
  match w.ent.session.memory.allocateditems with
  | none => 0
  | some item =>
    let context := w.ent.session.custom (w.ent.session.memory.elem item)
    Machine64.wrap64 (w.uxrNanos + context.timeOffset)

namespace Buffers

/-- The buffer embedded item `item` stands for: `item->data`. -/
def data (b : Buffers) (item : Nat) : StaticInputBuffer :=
  b.staticBuffer.custom (b.staticBuffer.memory.elem item)

/-- Whether an allocated item's buffer has the given owner. -/
def owned (b : Buffers) (entity : Option Owner) (item : Nat) : Bool :=
  (b.data item).owner == entity

end Buffers

/-- `rmw_uxrce_count_static_input_buffer_for_entity`. -/
def rmwUxrceCountStaticInputBufferForEntity (b : Buffers) (entity : Option Owner) : Nat :=
  b.staticBuffer.memory.allocated.countP (b.owned entity)

/-- One step of the scan for the oldest buffer: the item found so far and its timestamp. -/
def scanOldest (b : Buffers) (owner : Option Owner) (found : Option Nat × Int) (item : Nat) :
    Option Nat × Int :=
  if b.owned owner item ∧ (b.data item).timestamp < found.2 then
    (some item, (b.data item).timestamp)
  else found

/-- `rmw_uxrce_find_static_input_buffer_by_owner`. -/
def rmwUxrceFindStaticInputBufferByOwner (b : Buffers) (owner : Option Owner) : Option Nat :=
  (b.staticBuffer.memory.allocated.foldl (scanOldest b owner) (none, Machine64.int64Max)).1

/-- `get_memory(&static_buffer_memory)`. -/
def Buffers.getMemory (b : Buffers) : Option Nat × Buffers :=
  let (item, memory) := b.staticBuffer.memory.getMemory []
  (item, { b with staticBuffer := { b.staticBuffer with memory := memory } })

/-- `put_memory(&static_buffer_memory, item)`. -/
def Buffers.putMemory (b : Buffers) (item : Nat) : Buffers :=
  { b with staticBuffer := { b.staticBuffer with memory := b.staticBuffer.memory.putMemory item } }

/-- Writing fields of the buffer `item` stands for. -/
def Buffers.write (b : Buffers) (item : Nat) (f : StaticInputBuffer → StaticInputBuffer) : Buffers :=
  { b with staticBuffer := b.staticBuffer.update (b.staticBuffer.memory.elem item) f }

/-- `rmw_uxrce_get_static_input_buffer_for_entity`. -/
def rmwUxrceGetStaticInputBufferForEntity (b : Buffers) (entity : Owner) (qos : RmwQosProfile) :
    Option Nat × Buffers :=
  let count := rmwUxrceCountStaticInputBufferForEntity b (some entity)
  match qos.history with
  | .unknown | .systemDefault | .keepLast =>
    if qos.depth = 0 ∨ count < qos.depth then b.getMemory
    else (rmwUxrceFindStaticInputBufferByOwner b (some entity), b)
  | .keepAll =>
    if qos.depth = 0 ∨ count < qos.depth then b.getMemory
    else (none, b)

/-- The lifespan of the entity an owner address is cast to, by the recorded type. -/
def ownerLifespan (e : Entities) (data : StaticInputBuffer) : RmwTime :=
  let owner := (data.owner.map Owner.index).getD 0
  match data.entityType with
  | .subscription => (e.subscription.custom owner).qos.lifespan
  | .client => (e.client.custom owner).qos.lifespan
  | .service => (e.service.custom owner).qos.lifespan
  | _ => ⟨0, 1⟩

/-- The lifespan a buffer is judged by: an unspecified one counts as the default. -/
def effectiveLifespan (e : Entities) (data : StaticInputBuffer) : RmwTime :=
  if rmwTimeEqual (ownerLifespan e data) rmwDurationUnspecified then rmwUxrceQosLifespanDefault
  else ownerLifespan e data

/-- The test of `rmw_uxrce_clean_expired_static_input_buffer`. -/
def expired (e : Entities) (nowNs : Int) (data : StaticInputBuffer) : Prop :=
  Machine64.wrap64 (data.timestamp + rmwTimeTotalNsec (effectiveLifespan e data)) < nowNs ∨
    nowNs < data.timestamp

instance (e : Entities) (nowNs : Int) (data : StaticInputBuffer) :
    Decidable (expired e nowNs data) := inferInstanceAs (Decidable (_ ∨ _))

/-- The loop of the cleaning: `aux_next` is read before the item is released. -/
def cleanLoop (nowNs : Int) : Nat → Option Nat → State → State
  | 0, _, s => s
  | _ + 1, none, s => s
  | k + 1, some item, s =>
    let auxNext := (s.w.buf.staticBuffer.memory.link item).next
    if expired s.w.ent nowNs (s.w.buf.data item) then
      cleanLoop nowNs k auxNext ((s.record (.expire item)).mapBuf (·.putMemory item))
    else cleanLoop nowNs k auxNext s

/-- `rmw_uxrce_clean_expired_static_input_buffer`. -/
def rmwUxrceCleanExpiredStaticInputBuffer : Prog Unit :=
  modify fun s =>
    cleanLoop (rmwUrosEpochNanos s.w) s.w.buf.staticBuffer.memory.size
      s.w.buf.staticBuffer.memory.allocateditems s

end RmwMicroxrcedds
