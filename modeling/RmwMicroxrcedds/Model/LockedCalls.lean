import RmwMicroxrcedds.Base.Locks
import RmwMicroxrcedds.Model.Exchange
import RmwMicroxrcedds.Pool.Concurrent
import RmwMicroxrcedds.Pool.Growth

/-!
# The locks

`UCLIENT_PROFILE_MULTITHREAD` gives every pool a recursive mutex, and `rmw_wait` one of its own. The
functions below take and give back these mutexes where the functions of their names in the source do, and
change the pools as those do, with and without `RMW_UXRCE_ALLOW_DYNAMIC_ALLOCATIONS`. What the source finds
out elsewhere (in a field of an entity or a buffer, from a type support, from the agent) is an answer that
comes from outside, so a statement about all answers is one about all paths.
-/

namespace RmwMicroxrcedds.Locked
set_option autoImplicit false

open Locks
open Growth (ItemAddr)
open Concurrent (removed freed)

/-! ## Pools and mutexes -/

/-- The pools, by the entities they hold. -/
inductive PoolId where
  | session | node | publisher | subscription | service | client | topic | staticBuffer | initOptions
  | waitSet | guardCondition
deriving DecidableEq

inductive Mutex where
  /-- `X_memory.mutex` -/
  | pool (p : PoolId)
  /-- `rmw_uxrce_wait_mutex` -/
  | wait
deriving DecidableEq

/-- The build options that decide about exits. -/
structure Build where
  allowDynamicAllocations : Bool
  graph : Bool

/-- A callback, with the profile of the entity it finds. -/
inductive Callback where
  | topic (qos : RmwQosProfile)
  | request (qos : RmwQosProfile)
  | reply (qos : RmwQosProfile)

/-- What happens while the client library runs a session. -/
structure SessionRun where
  callbacks : List Callback
  confirmed : Bool

/-- The pools, the number of blocks taken from the allocator, and the answers still to come. -/
structure Memory where
  pool : PoolId → Mempool ItemAddr Growth.Element
  blocks : Nat
  conditions : List Bool
  pointers : List Growth.Element
  runs : List SessionRun

abbrev Prog := Locking Memory Mutex

/-- `*mem` -/
def readPool (p : PoolId) : Prog (Mempool ItemAddr Growth.Element) := do
  return (← read).pool p

def writePool (p : PoolId) (f : Mempool ItemAddr Growth.Element → Mempool ItemAddr Growth.Element) :
    Prog Unit :=
  write fun s => { s with pool := fun q => if q = p then f (s.pool q) else s.pool q }

/-- A condition on something other than the pools. -/
def consult : Prog Bool :=
  unlocked fun s => (s.conditions.headD false, { s with conditions := s.conditions.tail })

/-- A pointer to an element that is read from an entity. -/
def follow : Prog Growth.Element :=
  unlocked fun s => (s.pointers.headD (.array 0), { s with pointers := s.pointers.tail })

def nextRun : Prog SessionRun :=
  unlocked fun s => (s.runs.headD ⟨[], false⟩, { s with runs := s.runs.tail })

/-- The two blocks of an `rmw_allocate` each, not handed out before. -/
def allocate : Prog (Allocation ItemAddr Growth.Element) :=
  unlocked fun s =>
    ({ item := .heap s.blocks, element := .heap s.blocks, mem := .mem (.heap s.blocks) },
      { s with blocks := s.blocks + 1 })

/-! ## `memory.c` -/

/-- `has_memory`. -/
def hasMemory (p : PoolId) : Prog Bool := do
  lock (.pool p)
  let mem ← readPool p
  unlock (.pool p)
  return mem.hasMemory

/-- `put_memory`. A dynamic item goes back to the allocator. -/
def putMemory (b : Build) (p : PoolId) (item : ItemAddr) : Prog Unit := do
  lock (.pool p)
  let mem ← readPool p
  writePool p (removed · item)
  if b.allowDynamicAllocations ∧ mem.isDynamicMemory item then
    return ()
  else
    writePool p (freed · item)
    unlock (.pool p)

/-- The first branch of `get_memory`, and the end of the function. -/
def takeFree (p : PoolId) : Prog (Option ItemAddr) := do
  let mem ← readPool p
  match mem.freeitems with
  | none =>
    unlock (.pool p)
    return none
  | some item =>
    writePool p (·.getFree item)
    unlock (.pool p)
    return some item

/-- The second branch, and the end of the function. -/
def takeGrown (p : PoolId) (grow : Prog (Option ItemAddr)) : Prog (Option ItemAddr) := do
  if (← readPool p).isDynamicAllowed then
    let item ← grow
    unlock (.pool p)
    return item
  else
    unlock (.pool p)
    return none

/-- `get_memory`, with what it does when it may allocate. -/
def getMemoryOr (p : PoolId) (grow : Prog (Option ItemAddr)) : Prog (Option ItemAddr) := do
  lock (.pool p)
  if ← hasMemory p then takeFree p else takeGrown p grow

/-- A new item goes through `put_memory` into the free list, and is marked dynamic afterwards. -/
def addDynamic (b : Build) (p : PoolId) (a : Allocation ItemAddr Growth.Element) : Prog Unit := do
  writePool p (·.newItem a)
  putMemory b p a.item
  writePool p fun mem =>
    { mem with isDynamicMemory := fun x => if x = a.item then true else mem.isDynamicMemory x }

/-- `get_memory`, with the blocks the allocator has for it; once there is a new item it calls itself. -/
def getMemoryFrom (b : Build) (p : PoolId) :
    List (Allocation ItemAddr Growth.Element) → Prog (Option ItemAddr)
  | [] => getMemoryOr p (return none)
  | a :: rest => getMemoryOr p do
    addDynamic b p a
    getMemoryFrom b p rest

/-- `get_memory`. A build without dynamic allocations has nothing to allocate with. -/
def getMemory (b : Build) (p : PoolId) : Prog (Option ItemAddr) := do
  if b.allowDynamicAllocations then
    let a ← allocate
    getMemoryFrom b p [a]
  else getMemoryFrom b p []

/-! ## The static input buffers -/

/-- `X_memory.allocateditems`, walked along. -/
def allocated (p : PoolId) : Prog (List ItemAddr) := do
  return (← readPool p).allocated

/-- The loop of `rmw_uxrce_count_static_input_buffer_for_entity`. -/
def countOwned : List ItemAddr → Nat → Prog Nat
  | [], count => return count
  | _ :: rest, count => do
    if ← consult then countOwned rest (count + 1) else countOwned rest count

/-- `rmw_uxrce_count_static_input_buffer_for_entity`. -/
def rmwUxrceCountStaticInputBufferForEntity : Prog Nat := do
  lock (.pool .staticBuffer)
  let count ← countOwned (← allocated .staticBuffer) 0
  unlock (.pool .staticBuffer)
  return count

/-- The loop of `rmw_uxrce_find_static_input_buffer_by_owner`: the condition is that the buffer has the
owner and is older than the one found so far. -/
def findOldest : List ItemAddr → Option ItemAddr → Prog (Option ItemAddr)
  | [], ret => return ret
  | item :: rest, ret => do
    if ← consult then findOldest rest (some item) else findOldest rest ret

/-- `rmw_uxrce_find_static_input_buffer_by_owner`. -/
def rmwUxrceFindStaticInputBufferByOwner : Prog (Option ItemAddr) := do
  lock (.pool .staticBuffer)
  let ret ← findOldest (← allocated .staticBuffer) none
  unlock (.pool .staticBuffer)
  return ret

/-- The switch of `rmw_uxrce_get_static_input_buffer_for_entity`. -/
def chooseStaticInputBuffer (b : Build) (qos : RmwQosProfile) (count : Nat) : Prog (Option ItemAddr) :=
  match qos.history with
  | .unknown | .systemDefault | .keepLast =>
    if qos.depth = 0 ∨ count < qos.depth then getMemory b .staticBuffer
    else rmwUxrceFindStaticInputBufferByOwner
  | .keepAll => if qos.depth = 0 ∨ count < qos.depth then getMemory b .staticBuffer else return none

/-- `rmw_uxrce_get_static_input_buffer_for_entity`. -/
def rmwUxrceGetStaticInputBufferForEntity (b : Build) (qos : RmwQosProfile) :
    Prog (Option ItemAddr) := do
  lock (.pool .staticBuffer)
  let count ← rmwUxrceCountStaticInputBufferForEntity
  let ret ← chooseStaticInputBuffer b qos count
  unlock (.pool .staticBuffer)
  return ret

/-- The loop of `rmw_uxrce_clean_expired_static_input_buffer`, which reads `next` before the item may
leave the list. -/
def cleanLoop (b : Build) : Nat → Option ItemAddr → Prog Unit
  | 0, _ => return ()
  | _ + 1, none => return ()
  | fuel + 1, some item => do
    let auxNext := ((← readPool .staticBuffer).link item).next
    if ← consult then
      putMemory b .staticBuffer item
      cleanLoop b fuel auxNext
    else cleanLoop b fuel auxNext

/-- `rmw_uxrce_clean_expired_static_input_buffer`. -/
def rmwUxrceCleanExpiredStaticInputBuffer (b : Build) : Prog Unit := do
  lock (.pool .staticBuffer)
  let mem ← readPool .staticBuffer
  cleanLoop b mem.size mem.allocateditems
  unlock (.pool .staticBuffer)

/-! ## `callbacks.c` -/

/-- The walk the three callbacks share: at the entity that is meant, a buffer is asked for, filled, and
put back if the sample cannot be read. -/
def receive (b : Build) (qos : RmwQosProfile) : List ItemAddr → Prog Unit
  | [] => return ()
  | _ :: rest => do
    if ← consult then
      lock (.pool .staticBuffer)
      match ← rmwUxrceGetStaticInputBufferForEntity b qos with
      | none => unlock (.pool .staticBuffer)
      | some memoryNode =>
        if ← consult then
          putMemory b .staticBuffer memoryNode
          unlock (.pool .staticBuffer)
        else unlock (.pool .staticBuffer)
    else receive b qos rest

/-- Whether a sample is for the graph, in a build that has it. -/
def isForGraph (b : Build) : Prog Bool := if b.graph then consult else return false

/-- `on_topic`. -/
def onTopic (b : Build) (qos : RmwQosProfile) : Prog Unit := do
  if ← isForGraph b then return ()
  else receive b qos (← allocated .subscription)

/-- `on_request`. -/
def onRequest (b : Build) (qos : RmwQosProfile) : Prog Unit := do
  receive b qos (← allocated .service)

/-- `on_reply`. -/
def onReply (b : Build) (qos : RmwQosProfile) : Prog Unit := do
  receive b qos (← allocated .client)

def Callback.run (b : Build) : Callback → Prog Unit
  | .topic qos => onTopic b qos
  | .request qos => onRequest b qos
  | .reply qos => onReply b qos

/-- Running a session raises callbacks. -/
def runSession (b : Build) : Prog Bool := do
  let run ← nextRun
  run.callbacks.forM (·.run b)
  return run.confirmed

/-- `run_xrce_session`. -/
def runXrceSession (b : Build) : Prog Bool := do
  if ← consult then return true else runSession b

/-! ## `rmw_wait.c` -/

/-- The sessions that are to be run, of the allocated ones. -/
def runSessions (b : Build) : List ItemAddr → Prog Unit
  | [] => return ()
  | _ :: rest => do
    if ← consult then
      let _ ← runSession b
      runSessions b rest
    else runSessions b rest

/-- The part of `rmw_wait` that runs sessions: those of the wait set, or all of them without blocking. -/
def waitSessions (b : Build) : Prog Unit := do
  let sessions ← allocated .session
  if ← consult then runSessions b sessions
  else sessions.forM fun _ => do
    let _ ← runSession b

/-- The entries of one array: whether one of them has a buffered message. -/
def checkEntries : List Nat → Bool → Prog Bool
  | [], bufferedStatus => return bufferedStatus
  | _ :: rest, bufferedStatus => do
    let found ← rmwUxrceFindStaticInputBufferByOwner
    checkEntries rest (bufferedStatus || found.isSome)

/-- The guard conditions. -/
def checkGuardConditions : List Nat → Bool → Prog Bool
  | [], bufferedStatus => return bufferedStatus
  | _ :: rest, bufferedStatus => do
    let hasTriggered ← consult
    checkGuardConditions rest (bufferedStatus || hasTriggered)

/-- The part of `rmw_wait` behind its unlock, which looks for what has arrived. -/
def checkWaitSet (set : WaitSet Nat) : Prog RmwRet := do
  let bufferedStatus ← checkEntries (set.services.getD []) false
  let bufferedStatus ← checkEntries (set.clients.getD []) bufferedStatus
  let bufferedStatus ← checkEntries (set.subscriptions.getD []) bufferedStatus
  let bufferedStatus ← checkGuardConditions (set.guardConditions.getD []) bufferedStatus
  return if bufferedStatus then .ok else .timeout

/-- `rmw_wait`. -/
def rmwWait (b : Build) (set : WaitSet Nat) : Prog RmwRet := do
  lock .wait
  if set.services = none ∧ set.clients = none ∧ set.subscriptions = none ∧
      set.guardConditions = none then
    unlock .wait
    return .ok
  else
    rmwUxrceCleanExpiredStaticInputBuffer b
    waitSessions b
    unlock .wait
    checkWaitSet set

/-! ## Takes -/

/-- What `rmw_take_with_info`, `rmw_take_request` and `rmw_take_response` have in common. -/
def take (b : Build) : Prog RmwRet := do
  if ← consult then return .incorrectRmwImplementation
  else
    rmwUxrceCleanExpiredStaticInputBuffer b
    lock (.pool .staticBuffer)
    match ← rmwUxrceFindStaticInputBufferByOwner with
    | none =>
      unlock (.pool .staticBuffer)
      return .error
    | some staticBufferItem =>
      let deserializeRv ← consult
      putMemory b .staticBuffer staticBufferItem
      unlock (.pool .staticBuffer)
      return if deserializeRv then .ok else .error

/-- `rmw_take` and `rmw_take_with_info`. -/
def rmwTakeWithInfo (b : Build) : Prog RmwRet := take b

/-- `rmw_take_request`. -/
def rmwTakeRequest (b : Build) : Prog RmwRet := take b

/-- `rmw_take_response`. -/
def rmwTakeResponse (b : Build) : Prog RmwRet := take b

/-- The loop of `rmw_take_sequence`. -/
def takeSequenceLoop (b : Build) : Nat → RmwRet → Prog RmwRet
  | 0, ret => return ret
  | i + 1, _ => do
    let ret ← rmwTakeWithInfo b
    if ret ≠ .ok then return ret else takeSequenceLoop b i ret

/-- `rmw_take_sequence`. -/
def rmwTakeSequence (b : Build) (count : Nat) : Prog RmwRet := do
  if ← consult then return .incorrectRmwImplementation else takeSequenceLoop b count .ok

end RmwMicroxrcedds.Locked
