import RmwMicroxrcedds.Pool.Concurrent
import RmwMicroxrcedds.Proof.Sessions

/-!
# The static buffers, access by access

The functions of `types.c` on the static input buffers, the part of the callbacks that stores a sample and the
part of a take that reads and releases it run under the recursive mutex of `static_buffer_memory`, which the pool
functions they call take again. Each access to a field is one of its own. The build is one without
`RMW_UXRCE_ALLOW_DYNAMIC_ALLOCATIONS`.
-/

namespace RmwMicroxrcedds.Concurrent
set_option autoImplicit false
open Intrusive Threads Threads.Code

variable {β : Type}

/-- What a call reads besides the buffers: the entities and the clock. -/
structure Outside where
  ent : Entities
  uxrNanos : Int

def Outside.world (v : Outside) (b : Buffers) : World := { ent := v.ent, buf := b, uxrNanos := v.uxrNanos }

/-- `rmw_uros_epoch_nanos`, which does not look at the buffers. -/
def Outside.epochNanos (v : Outside) : Int := rmwUrosEpochNanos (v.world .zero)

/-! ## Accesses -/

def setPool (mem : Pool) (b : Buffers) : Buffers :=
  { b with staticBuffer := { b.staticBuffer with memory := mem } }

/-- Code on `static_buffer_memory`. -/
def inPool (c : Code Pool β) : Code Buffers β := c.zoom (·.staticBuffer.memory) setPool

/-- `item->data` -/
def dataOf (item : Nat) : Code Buffers Nat := fetch fun b => b.staticBuffer.memory.elem item

def readField (data : Nat) (f : StaticInputBuffer → β) : Code Buffers β :=
  fetch fun b => f (b.staticBuffer.custom data)

def writeField (data : Nat) (f : StaticInputBuffer → StaticInputBuffer) : Code Buffers Unit :=
  store fun b => { b with staticBuffer := b.staticBuffer.update data f }

/-- `while (item != NULL)`, with what the body makes of the item: the next one and the values of the variables.
The size of the pool bounds the walk. -/
def whileItem (body : Nat → β → Code Buffers (Option Nat × β)) : Nat → Option Nat → β → Code Buffers β
  | 0, _, acc => pure acc
  | _ + 1, none, acc => pure acc
  | k + 1, some item, acc => do
    let next ← body item acc
    whileItem body k next.1 next.2

/-- The loop from the head of the allocated list. -/
def eachAllocated (body : Nat → β → Code Buffers (Option Nat × β)) (acc : β) : Code Buffers β := do
  let size ← fetch (·.staticBuffer.memory.size)
  let item ← inPool (fetch (·.allocateditems))
  whileItem body size item acc

/-! ## The functions -/

def countItem (entity : Option Owner) (item count : Nat) : Code Buffers (Option Nat × Nat) := do
  let data ← dataOf item
  let owner ← readField data (·.owner)
  let next ← inPool (nextOf item)
  return (next, if owner = entity then count + 1 else count)

/-- `rmw_uxrce_count_static_input_buffer_for_entity` -/
def countForEntity (entity : Option Owner) : Code Buffers Nat :=
  critical (eachAllocated (countItem entity) 0)

def findItem (owner : Option Owner) (item : Nat) (found : Option Nat × Int) :
    Code Buffers (Option Nat × Option Nat × Int) := do
  let data ← dataOf item
  let own ← readField data (·.owner)
  let timestamp ← readField data (·.timestamp)
  let next ← inPool (nextOf item)
  return (next, if own = owner ∧ timestamp < found.2 then (some item, timestamp) else found)

/-- `rmw_uxrce_find_static_input_buffer_by_owner` -/
def findByOwner (owner : Option Owner) : Code Buffers (Option Nat) :=
  critical do
    let found ← eachAllocated (findItem owner) (none, Machine64.int64Max)
    return found.1

/-- `rmw_uxrce_get_static_input_buffer_for_entity` -/
def getForEntity (entity : Owner) (qos : RmwQosProfile) : Code Buffers (Option Nat) :=
  critical do
    let count ← countForEntity (some entity)
    match qos.history with
    | .unknown | .systemDefault | .keepLast =>
      if qos.depth = 0 ∨ count < qos.depth then inPool (getMemory []) else findByOwner (some entity)
    | .keepAll => if qos.depth = 0 ∨ count < qos.depth then inPool (getMemory []) else pure none

/-- What the callbacks do with a sample for an entity they have found. The result is the item of the buffer that
holds the sample. -/
def receiveSample (v : Outside) (owner : Owner) (ev : SessionEvent) : Code Buffers (Option Nat) :=
  critical do
    match ← getForEntity owner (v.ent.qos owner) with
    | none => pure none
    | some memoryNode =>
      let data ← dataOf memoryNode
      writeField data fun d => { d with buffer := (ucdrDeserializeArrayUint8T ev.bytes d.buffer ev.length).2 }
      if ev.length ≤ ev.bytes.length then
        writeField data fun d => { d with owner := some owner }
        writeField data fun d => { d with length := ev.length }
        writeField data fun d => { d with related := ev.related.getD d.related }
        writeField data fun d => { d with timestamp := v.epochNanos }
        writeField data fun d => { d with entityType := owner.entityType }
        pure (some memoryNode)
      else
        inPool (putMemory false memoryNode)
        pure none

/-- The fields of a buffer that the cleaning looks at. -/
def judged (entityType : EntityType) (owner : Option Owner) (timestamp : Int) : StaticInputBuffer :=
  { (default : StaticInputBuffer) with entityType := entityType, owner := owner, timestamp := timestamp }

def cleanBody (v : Outside) (item : Nat) (_ : Unit) : Code Buffers (Option Nat × Unit) := do
  let data ← dataOf item
  let entityType ← readField data (·.entityType)
  let owner ← readField data (·.owner)
  let auxNext ← inPool (nextOf item)
  let timestamp ← readField data (·.timestamp)
  if expired v.ent v.epochNanos (judged entityType owner timestamp) then
    inPool (putMemory false item)
    pure (auxNext, ())
  else pure (auxNext, ())

/-- `rmw_uxrce_clean_expired_static_input_buffer` -/
def cleanExpired (v : Outside) : Code Buffers Unit := critical (eachAllocated (cleanBody v) ())

/-- What the three take functions do after their cleaning. -/
def takeBuffer (owner : Option Owner) (header : Related → TakeHeader) (cdrDeserialize : List UInt8 → Bool) :
    Code Buffers TakeResult :=
  critical do
    match ← findByOwner owner with
    | none => pure { ret := .error, taken := false, payload := none, header := .untouched }
    | some item =>
      let data ← dataOf item
      let related ← readField data (·.related)
      let buffer ← readField data (·.buffer)
      let length ← readField data (·.length)
      let payload := buffer.take length
      let deserializeRv := cdrDeserialize payload
      inPool (putMemory false item)
      pure { ret := if deserializeRv then .ok else .error, taken := deserializeRv
             payload := some payload, header := header related }

/-! ## Alone -/

/-- A take's part after its cleaning, one call after another. -/
def takeFound (b : Buffers) (owner : Option Owner) (header : Related → TakeHeader)
    (cdrDeserialize : List UInt8 → Bool) : TakeResult × Buffers :=
  match rmwUxrceFindStaticInputBufferByOwner b owner with
  | none => ({ ret := .error, taken := false, payload := none, header := .untouched }, b)
  | some item =>
    let payload := (b.data item).buffer.take (b.data item).length
    ({ ret := if cdrDeserialize payload then .ok else .error, taken := cdrDeserialize payload
       payload := some payload, header := header (b.data item).related }, b.putMemory item)

/-- `takeOldest` is a cleaning and this part. -/
theorem takeOldest_parts (owner : Option Owner) (header : Related → TakeHeader)
    (cdrDeserialize : List UInt8 → Bool) (s : State) :
    let t := (rmwUxrceCleanExpiredStaticInputBuffer s).2
    let r := takeOldest owner (header ·.related) cdrDeserialize s
    r.1 = (takeFound t.w.buf owner header cdrDeserialize).1 ∧
      r.2.w.buf = (takeFound t.w.buf owner header cdrDeserialize).2 := by
  intro t r
  have split : r = takeOldest owner (header ·.related) cdrDeserialize s := rfl
  rw [takeOldest, Prog.bind_run, Prog.get_run] at split
  rw [takeFound]
  cases found : rmwUxrceFindStaticInputBufferByOwner t.w.buf owner with
  | none =>
    have found' : rmwUxrceFindStaticInputBufferByOwner
        (rmwUxrceCleanExpiredStaticInputBuffer s).2.w.buf owner = none := found
    rw [found'] at split
    rw [split]
    exact ⟨rfl, rfl⟩
  | some item =>
    have found' : rmwUxrceFindStaticInputBufferByOwner
        (rmwUxrceCleanExpiredStaticInputBuffer s).2.w.buf owner = some item := found
    rw [found'] at split
    rw [split]
    exact ⟨rfl, rfl⟩

section Alone

variable (b : Buffers) (v : Outside)

theorem pool_part : IsPart (fun b : Buffers => b.staticBuffer.memory) setPool :=
  ⟨fun _ _ => rfl, fun _ => rfl, fun _ _ _ => rfl⟩

/-- Code on the pool changes nothing else of the buffers. -/
theorem inPool_alone (c : Code Pool β) :
    (inPool c).alone b = ((c.alone b.staticBuffer.memory).1, setPool (c.alone b.staticBuffer.memory).2 b) :=
  alone_zoom pool_part c b

@[simp] theorem dataOf_alone (item : Nat) : (dataOf item).alone b = (b.staticBuffer.memory.elem item, b) := rfl

@[simp] theorem readField_alone (data : Nat) (f : StaticInputBuffer → β) :
    (readField data f).alone b = (f (b.staticBuffer.custom data), b) := rfl

@[simp] theorem writeField_alone (data : Nat) (f : StaticInputBuffer → StaticInputBuffer) :
    (writeField data f).alone b = ((), { b with staticBuffer := b.staticBuffer.update data f }) := rfl

@[simp] theorem nextItem_alone (item : Nat) :
    (inPool (nextOf item)).alone b = ((b.staticBuffer.memory.link item).next, b) := by
  rw [inPool_alone]
  rfl

@[simp] theorem putBuffer_alone (item : Nat) (static : b.staticBuffer.memory.isDynamicMemory item = false) :
    (inPool (putMemory false item)).alone b = ((), b.putMemory item) := by
  rw [inPool_alone, putMemory_alone, put_eq (.inr static)]
  rfl

@[simp] theorem getBuffer_alone : (inPool (getMemory [])).alone b = b.getMemory := by
  rw [inPool_alone, getMemory_alone]
  rfl

/-- A loop that only reads folds over the allocated list. -/
theorem eachAllocated_alone {body : Nat → β → Code Buffers (Option Nat × β)} {f : β → Nat → β}
    (reads : ∀ item acc, (body item acc).alone b = (((b.staticBuffer.memory.link item).next, f acc item), b))
    (acc : β) : (eachAllocated body acc).alone b = (b.staticBuffer.memory.allocated.foldl f acc, b) := by
  have loop : ∀ k item acc, (whileItem body k item acc).alone b =
      ((walk b.staticBuffer.memory.link k item).foldl f acc, b) := by
    intro k
    induction k with
    | zero => exact fun _ _ => rfl
    | succ k ih =>
      intro item acc
      cases item with
      | none => rfl
      | some item =>
        rw [whileItem, alone_bind, reads, ih]
        rfl
  simp only [eachAllocated, alone_bind, alone_fetch, inPool_alone]
  exact loop _ _ acc

/-- Alone, the access by access count is the function of the sequential model. -/
theorem countForEntity_alone (entity : Option Owner) :
    (countForEntity entity).alone b = (rmwUxrceCountStaticInputBufferForEntity b entity, b) := by
  have count : ∀ (l : List Nat) (acc : Nat),
      l.foldl (fun acc item => if (b.data item).owner = entity then acc + 1 else acc) acc =
        acc + l.countP (b.owned entity) := by
    intro l
    induction l with
    | nil => exact fun _ => rfl
    | cons item l ih =>
      intro acc
      rw [List.foldl_cons, ih, List.countP_cons]
      by_cases own : (b.data item).owner = entity
      · simp [own, Buffers.owned]
        omega
      · simp [own, Buffers.owned]
  have reads : ∀ item acc, (countItem entity item acc).alone b = (((b.staticBuffer.memory.link item).next,
      if (b.data item).owner = entity then acc + 1 else acc), b) := by
    intro item acc
    simp only [countItem, alone_bind, dataOf_alone, readField_alone, nextItem_alone, alone_pure]
    rfl
  rw [countForEntity, alone_critical, eachAllocated_alone b reads, count, Nat.zero_add]
  rfl

/-- The same of the search for the oldest message of an owner, -/
theorem findByOwner_alone (owner : Option Owner) :
    (findByOwner owner).alone b = (rmwUxrceFindStaticInputBufferByOwner b owner, b) := by
  have reads : ∀ item acc, (findItem owner item acc).alone b =
      (((b.staticBuffer.memory.link item).next, scanOldest b owner acc item), b) := by
    intro item acc
    simp only [findItem, alone_bind, dataOf_alone, readField_alone, nextItem_alone, alone_pure, scanOldest,
      Buffers.owned, beq_iff_eq]
    rfl
  rw [findByOwner, alone_critical, alone_bind, eachAllocated_alone b reads]
  rfl

/-- and of the choice of a buffer for a new sample. -/
theorem getForEntity_alone (entity : Owner) (qos : RmwQosProfile) :
    (getForEntity entity qos).alone b = rmwUxrceGetStaticInputBufferForEntity b entity qos := by
  rw [getForEntity, alone_critical, alone_bind, countForEntity_alone, rmwUxrceGetStaticInputBufferForEntity]
  dsimp only
  cases qos.history with
  | keepAll =>
    dsimp only
    split
    · exact getBuffer_alone b
    · rfl
  | unknown | systemDefault | keepLast =>
    dsimp only
    split
    · exact getBuffer_alone b
    · exact findByOwner_alone b _

/-! ### In a pool without dynamic items -/

/-- No item of the pool is a dynamic one. -/
def Static (b : Buffers) : Prop := ∀ x, b.staticBuffer.memory.isDynamicMemory x = false

/-- The entities and the clock with these buffers. -/
def Outside.state (v : Outside) (b : Buffers) : State := { State.zero with w := v.world b }

variable {b}

theorem static_putMemory (static : Static b) (item : Nat) : Static (b.putMemory item) := by
  intro x
  have same : (b.staticBuffer.memory.putMemory item).isDynamicMemory = b.staticBuffer.memory.isDynamicMemory := by
    unfold Mempool.putMemory
    dsimp only
    split
    · rfl
    · rfl
  exact (congrFun same x).trans (static x)

theorem static_getMemory (static : Static b) : Static b.getMemory.2 := by
  intro x
  have same : (b.staticBuffer.memory.getMemory []).2.isDynamicMemory = b.staticBuffer.memory.isDynamicMemory := by
    unfold Mempool.getMemory
    cases b.staticBuffer.memory.freeitems with
    | some item => rfl
    | none =>
      dsimp only
      split
      · rfl
      · rfl
  exact (congrFun same x).trans (static x)

/-- The choice of a buffer makes no item dynamic. -/
theorem static_get (static : Static b) (entity : Owner) (qos : RmwQosProfile) :
    Static (rmwUxrceGetStaticInputBufferForEntity b entity qos).2 := by
  rw [rmwUxrceGetStaticInputBufferForEntity]
  cases qos.history with
  | keepAll =>
    dsimp only
    split
    · exact static_getMemory static
    · exact static
  | unknown | systemDefault | keepLast =>
    dsimp only
    split
    · exact static_getMemory static
    · exact static

/-- Alone, storing a sample leaves the buffers as `receive` does, and returns the same item. -/
theorem receiveSample_alone (static : Static b) (owner : Owner) (ev : SessionEvent) :
    (receiveSample v owner ev).alone b =
      let r := receive (v.world b) owner (v.ent.qos owner) owner.entityType ev.related ev.bytes ev.length
      (r.2, r.1.buf) := by
  have static' := static_get static owner (v.ent.qos owner)
  have buf : (v.world b).buf = b := rfl
  rw [receiveSample, alone_critical, alone_bind, getForEntity_alone, receive, buf]
  generalize rmwUxrceGetStaticInputBufferForEntity b owner (v.ent.qos owner) = granted at static' ⊢
  obtain ⟨item, b'⟩ := granted
  cases item with
  | none => rfl
  | some memoryNode =>
    dsimp only [ucdrDeserializeArrayUint8T]
    by_cases read : ev.length ≤ ev.bytes.length
    · simp only [alone_bind, dataOf_alone, writeField_alone, if_pos read, alone_pure, Buffers.write,
        Slots.update, setAt_setAt, setAt_self, Buffers.data]
      rw [if_pos (decide_eq_true read)]
      rfl
    · have unread : ¬ decide (ev.length ≤ ev.bytes.length) = true := by simpa using read
      have released := fun f => putBuffer_alone
        { b' with staticBuffer := b'.staticBuffer.update (b'.staticBuffer.memory.elem memoryNode) f } memoryNode
        (static' memoryNode)
      simp only [alone_bind, dataOf_alone, writeField_alone, if_neg read, alone_pure]
      rw [released, if_neg unread]
      rfl

/-- One round of the cleaning: the item is released if it has expired, and the next one is read before that. -/
theorem cleanBody_alone (static : Static b) (item : Nat) : (cleanBody v item ()).alone b =
    (((b.staticBuffer.memory.link item).next, ()),
      if expired v.ent v.epochNanos (b.data item) then b.putMemory item else b) := by
  have reads : (cleanBody v item ()).alone b =
      (if expired v.ent v.epochNanos (b.data item) then do
          inPool (putMemory false item)
          pure ((b.staticBuffer.memory.link item).next, ())
        else pure ((b.staticBuffer.memory.link item).next, ()) : Code Buffers (Option Nat × Unit)).alone b := rfl
  rw [reads]
  split
  · rw [alone_bind, putBuffer_alone b item (static item)]
    rfl
  · rfl

/-- Alone, the cleaning leaves the buffers as that of the sequential model does. -/
theorem cleanExpired_alone (static : Static b) :
    (cleanExpired v).alone b = ((), (rmwUxrceCleanExpiredStaticInputBuffer (v.state b)).2.w.buf) := by
  have loop : ∀ k item (s : State), s.w.ent = v.ent → Static s.w.buf →
      (whileItem (cleanBody v) k item ()).alone s.w.buf = ((), (cleanLoop v.epochNanos k item s).w.buf) := by
    intro k
    induction k with
    | zero => exact fun _ _ _ _ => rfl
    | succ k ih =>
      intro item s ent static
      cases item with
      | none => rfl
      | some item =>
        rw [whileItem, alone_bind, cleanBody_alone v static item, cleanLoop, ent]
        split
        · exact ih _ ((s.record (.expire item)).mapBuf (·.putMemory item)) ent (static_putMemory static item)
        · exact ih _ s ent static
  simp only [cleanExpired, alone_critical, eachAllocated, alone_bind, alone_fetch, inPool_alone]
  exact loop _ _ (v.state b) rfl static

/-- Alone, the part of a take after the cleaning finds, hands out and releases what `takeFound` does. -/
theorem takeBuffer_alone (static : Static b) (owner : Option Owner) (header : Related → TakeHeader)
    (cdrDeserialize : List UInt8 → Bool) :
    (takeBuffer owner header cdrDeserialize).alone b = takeFound b owner header cdrDeserialize := by
  rw [takeBuffer, alone_critical, alone_bind, findByOwner_alone, takeFound]
  dsimp only
  cases rmwUxrceFindStaticInputBufferByOwner b owner with
  | none => rfl
  | some item =>
    simp only [alone_bind, dataOf_alone, readField_alone, putBuffer_alone b item (static item), alone_pure]
    rfl

end Alone

/-! ## Under the mutex -/

section Stays

variable {d : Nat}

/-- Code on the pool holds the mutex as often among the buffers as it does in the pool. -/
theorem inPool_stays {ends : Nat → Prop} {c : Code Pool β} (h : c.Stays ends d) : (inPool c).Stays ends d :=
  h.zoom _ _

theorem dataOf_stays (item : Nat) : (dataOf item).Stays (· = d) d := fun _ => rfl

theorem readField_stays (data : Nat) (f : StaticInputBuffer → β) : (readField data f).Stays (· = d) d :=
  fun _ => rfl

theorem writeField_stays (data : Nat) (f : StaticInputBuffer → StaticInputBuffer) :
    (writeField data f).Stays (· = d) d := fun _ => rfl

theorem nextItem_stays (item : Nat) : (inPool (nextOf item)).Stays (· = d) d := inPool_stays fun _ => rfl

/-- A release takes the mutex again and gives it back: the depth at which it is held is the same. -/
theorem putBuffer_stays (item : Nat) : (inPool (putMemory false item)).Stays (· = d) d := by
  apply inPool_stays
  apply (putMemory_near false).mono
  exact fun d' near => (near.mono Bool.false_ne_true).eq

/-- So does an allocation in the static build. -/
theorem getBuffer_stays : (inPool (getMemory [])).Stays (· = d) d := by
  apply inPool_stays
  have near : (getMemory [] : Code Pool (Option Nat)).Stays (Near False d) d :=
    getMemoryOr_near fun _ => .inl rfl
  exact near.mono fun _ => Near.eq

/-- A loop keeps the depth if its body does. -/
theorem eachAllocated_stays {body : Nat → β → Code Buffers (Option Nat × β)}
    (h : ∀ item acc, (body item acc).Stays (· = d) d) (acc : β) : (eachAllocated body acc).Stays (· = d) d := by
  have loop : ∀ k item acc, (whileItem body k item acc).Stays (· = d) d := by
    intro k
    induction k with
    | zero => exact fun _ _ => rfl
    | succ k ih =>
      intro item acc
      cases item with
      | none => rfl
      | some item =>
        apply (h item acc).bind
        rintro next _ rfl
        exact ih _ _
  intro s
  apply (inPool_stays (stays_fetch _)).bind
  rintro item _ rfl
  exact loop _ _ acc

/-- Every function on the buffers is one critical section, held to its end. -/
theorem countForEntity_closed (entity : Option Owner) : (countForEntity entity).Closed := by
  refine ⟨_, rfl, fun d => ?_⟩
  apply eachAllocated_stays
  exact fun _ _ _ _ _ => rfl

theorem findByOwner_closed (owner : Option Owner) : (findByOwner owner).Closed := by
  have reads : ∀ d item found, (findItem owner item found).Stays (· = d) d := fun _ _ _ _ _ _ _ => rfl
  refine ⟨_, rfl, fun d => ?_⟩
  apply (eachAllocated_stays (reads d) _).bind
  rintro found _ rfl
  rfl

theorem getForEntity_closed (entity : Owner) (qos : RmwQosProfile) : (getForEntity entity qos).Closed := by
  refine ⟨_, rfl, fun d => ?_⟩
  apply (countForEntity_closed _).stays.bind
  rintro count _ rfl
  cases qos.history with
  | keepAll =>
    dsimp only
    split
    · exact getBuffer_stays
    · rfl
  | unknown | systemDefault | keepLast =>
    dsimp only
    split
    · exact getBuffer_stays
    · exact (findByOwner_closed _).stays

theorem receiveSample_closed (v : Outside) (owner : Owner) (ev : SessionEvent) :
    (receiveSample v owner ev).Closed := by
  refine ⟨_, rfl, fun d => ?_⟩
  apply (getForEntity_closed _ _).stays.bind
  rintro item _ rfl
  cases item with
  | none => rfl
  | some memoryNode =>
    apply (dataOf_stays memoryNode).bind
    rintro data _ rfl
    apply (writeField_stays _ _).bind
    rintro - _ rfl
    split
    · exact fun _ _ _ _ _ => rfl
    · apply (putBuffer_stays _).bind
      rintro - _ rfl
      rfl

theorem cleanExpired_closed (v : Outside) : (cleanExpired v).Closed := by
  refine ⟨_, rfl, fun d => ?_⟩
  apply eachAllocated_stays
  intro item acc
  apply (dataOf_stays item).bind
  rintro data _ rfl
  apply (readField_stays _ _).bind
  rintro entityType _ rfl
  apply (readField_stays _ _).bind
  rintro owner _ rfl
  apply (nextItem_stays item).bind
  rintro auxNext _ rfl
  apply (readField_stays _ _).bind
  rintro timestamp _ rfl
  split
  · apply (putBuffer_stays _).bind
    rintro - _ rfl
    rfl
  · rfl

theorem takeBuffer_closed (owner : Option Owner) (header : Related → TakeHeader)
    (cdrDeserialize : List UInt8 → Bool) : (takeBuffer owner header cdrDeserialize).Closed := by
  refine ⟨_, rfl, fun d => ?_⟩
  apply (findByOwner_closed _).stays.bind
  rintro item _ rfl
  cases item with
  | none => rfl
  | some item =>
    intro b₁ b₂ b₃ b₄
    apply (putBuffer_stays _).bind
    rintro - _ rfl
    rfl

end Stays

end RmwMicroxrcedds.Concurrent
