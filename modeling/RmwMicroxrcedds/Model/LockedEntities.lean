import RmwMicroxrcedds.Model.LockedCalls

/-!
# The locks of the create and destroy functions

These functions take no lock themselves. They reach the pools through `get_memory` and `put_memory`, and they
run sessions, which raises callbacks.
-/

namespace RmwMicroxrcedds.Locked
set_option autoImplicit false

open Locks
open Growth (ItemAddr)

/-! ## Elements -/

/-- `(rmw_uxrce_x_t *)memory_node->data` -/
def dataOf (p : PoolId) (memoryNode : ItemAddr) : Prog Growth.Element := do
  return ((← readPool p).data memoryNode).getD (.array 0)

/-- The `rmw_uxrce_fini_x_memory` functions on the handle of an element: the identifier is checked, and
the item embedded in the element is put back unless the data pointer is NULL. -/
def finiMemory (b : Build) (p : PoolId) (custom : Growth.Element) : Prog Unit := do
  if ← consult then return ()
  else if ← consult then return ()
  else putMemory b p (.mem custom)

/-- `rmw_uxrce_fini_node_memory`. -/
def rmwUxrceFiniNodeMemory (b : Build) : Growth.Element → Prog Unit := finiMemory b .node

/-- `rmw_uxrce_fini_publisher_memory`. -/
def rmwUxrceFiniPublisherMemory (b : Build) : Growth.Element → Prog Unit := finiMemory b .publisher

/-- `rmw_uxrce_fini_subscription_memory`. -/
def rmwUxrceFiniSubscriptionMemory (b : Build) : Growth.Element → Prog Unit := finiMemory b .subscription

/-- `rmw_uxrce_fini_service_memory`. -/
def rmwUxrceFiniServiceMemory (b : Build) : Growth.Element → Prog Unit := finiMemory b .service

/-- `rmw_uxrce_fini_client_memory`. -/
def rmwUxrceFiniClientMemory (b : Build) : Growth.Element → Prog Unit := finiMemory b .client

/-- `rmw_uxrce_fini_topic_memory`. -/
def rmwUxrceFiniTopicMemory (b : Build) (topic : Growth.Element) : Prog Unit :=
  putMemory b .topic (.mem topic)

/-! ## Topics -/

/-- `create_topic`. -/
def createTopic (b : Build) : Prog (Option Growth.Element) := do
  match ← getMemory b .topic with
  | none => return none
  | some memoryNode =>
    let customTopic ← dataOf .topic memoryNode
    -- a name that does not fit
    if ← consult then
      rmwUxrceFiniTopicMemory b customTopic
      return none
    else if ← runXrceSession b then return some customTopic
    else
      rmwUxrceFiniTopicMemory b customTopic
      return none

/-- `destroy_topic`. -/
def destroyTopic (b : Build) (topic : Growth.Element) : Prog RmwRet := do
  -- without an owner
  if ← consult then return .error
  else
    let confirmed ← runXrceSession b
    rmwUxrceFiniTopicMemory b topic
    return if confirmed then .ok else .timeout

/-! ## Publishers and subscriptions -/

/-- What the two create functions do with the element: the name and the type support are checked, and a
topic and two objects are created. -/
def createEndpointBody (b : Build) : Prog Bool := do
  if ← consult then return false
  else
    match ← createTopic b with
    | none => return false
    | some _ =>
      if ← runXrceSession b then
        -- a profile that does not fit
        if ← consult then return false else runXrceSession b
      else return false

/-- `rmw_create_publisher` and `rmw_create_subscription` differ in their pool. At the label `fail` the
topic may be one from an earlier use of the element. -/
def createEndpoint (b : Build) (p : PoolId) : Prog (Option Growth.Element) := do
  if ← consult then return none
  else
    match ← getMemory b p with
    | none => return none
    | some memoryNode =>
      let custom ← dataOf p memoryNode
      if ← createEndpointBody b then return some custom
      else
        if ← consult then
          rmwUxrceFiniTopicMemory b (← follow)
          finiMemory b p custom
        else finiMemory b p custom
        return none

/-- `rmw_create_publisher`. -/
def rmwCreatePublisher (b : Build) : Prog (Option Growth.Element) := createEndpoint b .publisher

/-- `rmw_create_subscription`. -/
def rmwCreateSubscription (b : Build) : Prog (Option Growth.Element) := createEndpoint b .subscription

/-- The deletions of two objects, and the release of the element. -/
def deleteEndpoint (b : Build) (p : PoolId) (custom : Growth.Element) : Prog RmwRet := do
  let _ ← destroyTopic b (← follow)
  let first ← runXrceSession b
  let second ← runXrceSession b
  finiMemory b p custom
  return if first ∧ second then .ok else .timeout

/-- `rmw_destroy_publisher`. -/
def rmwDestroyPublisher (b : Build) (publisher : Growth.Element) : Prog RmwRet := do
  if ← consult then return .error else deleteEndpoint b .publisher publisher

/-- `rmw_destroy_subscription`, which cancels the reading first. -/
def rmwDestroySubscription (b : Build) (subscription : Growth.Element) : Prog RmwRet := do
  if ← consult then return .error
  else
    let _ ← runXrceSession b
    deleteEndpoint b .subscription subscription

/-! ## Services and clients -/

/-- `rmw_create_service` and `rmw_create_client` differ in their pool. -/
def createServiceEntity (b : Build) (p : PoolId) : Prog (Option Growth.Element) := do
  if ← consult then return none
  else
    match ← getMemory b p with
    | none => return none
    | some memoryNode =>
      let custom ← dataOf p memoryNode
      -- a name, a type support or a document
      if ← consult then
        finiMemory b p custom
        return none
      else if ← runXrceSession b then return some custom
      else
        finiMemory b p custom
        return none

/-- `rmw_create_service`. -/
def rmwCreateService (b : Build) : Prog (Option Growth.Element) := createServiceEntity b .service

/-- `rmw_create_client`. -/
def rmwCreateClient (b : Build) : Prog (Option Growth.Element) := createServiceEntity b .client

/-- `rmw_destroy_service` and `rmw_destroy_client` differ in their pool. -/
def destroyServiceEntity (b : Build) (p : PoolId) (custom : Growth.Element) : Prog RmwRet := do
  if ← consult then return .error
  else
    let _ ← runXrceSession b
    let confirmed ← runXrceSession b
    finiMemory b p custom
    return if confirmed then .ok else .timeout

/-- `rmw_destroy_service`. -/
def rmwDestroyService (b : Build) : Growth.Element → Prog RmwRet := destroyServiceEntity b .service

/-- `rmw_destroy_client`. -/
def rmwDestroyClient (b : Build) : Growth.Element → Prog RmwRet := destroyServiceEntity b .client

/-! ## Nodes -/

/-- `rmw_create_node` with `create_node`; a reference that does not fit leaves the element behind. -/
def rmwCreateNode (b : Build) : Prog (Option Growth.Element) := do
  if ← consult then return none
  else
    match ← getMemory b .node with
    | none => return none
    | some memoryNode =>
      let customNode ← dataOf .node memoryNode
      -- a name or namespace that does not fit
      if ← consult then
        rmwUxrceFiniNodeMemory b customNode
        return none
      else if ← consult then return none
      else if ← runXrceSession b then return some customNode
      else
        rmwUxrceFiniNodeMemory b customNode
        return none

/-- The loops of `rmw_destroy_node`: the entities of the node are destroyed, and an error ends the loop
and the function. -/
def destroyLoop (p : PoolId) (destroy : Growth.Element → Prog RmwRet) :
    Nat → Option ItemAddr → Prog Bool
  | 0, _ => return false
  | _ + 1, none => return false
  | fuel + 1, some item => do
    let custom ← dataOf p item
    let next := ((← readPool p).link item).next
    if ← consult then
      let ret ← destroy custom
      if ret = .error then return true else destroyLoop p destroy fuel next
    else destroyLoop p destroy fuel next

def destroyAll (p : PoolId) (destroy : Growth.Element → Prog RmwRet) : Prog Bool := do
  let mem ← readPool p
  destroyLoop p destroy mem.size mem.allocateditems

/-- `rmw_destroy_node`. -/
def rmwDestroyNode (b : Build) (node : Growth.Element) : Prog RmwRet := do
  if ← consult then return .error
  else if ← destroyAll .publisher (rmwDestroyPublisher b) then return .error
  else if ← destroyAll .subscription (rmwDestroySubscription b) then return .error
  else if ← destroyAll .service (rmwDestroyService b) then return .error
  else if ← destroyAll .client (rmwDestroyClient b) then return .error
  else
    let confirmed ← runXrceSession b
    rmwUxrceFiniNodeMemory b node
    -- the timeout of an entity
    let ok ← consult
    return if confirmed ∧ ok then .ok else .timeout

/-! ## Guard conditions and wait sets -/

/-- `rmw_create_guard_condition` and `rmw_create_wait_set` take an element. -/
def createHolder (b : Build) (p : PoolId) : Prog (Option Growth.Element) := do
  match ← getMemory b p with
  | none => return none
  | some memoryNode => return some (← dataOf p memoryNode)

/-- `rmw_create_guard_condition`. -/
def rmwCreateGuardCondition (b : Build) : Prog (Option Growth.Element) := createHolder b .guardCondition

/-- `rmw_create_wait_set`. -/
def rmwCreateWaitSet (b : Build) : Prog (Option Growth.Element) := createHolder b .waitSet

/-- The first allocated item that holds an element. -/
def itemOf (mem : Mempool ItemAddr Growth.Element) (holder : Growth.Element) : Option ItemAddr :=
  mem.allocated.find? fun item => mem.data item = some holder

/-- `rmw_destroy_guard_condition` and `rmw_destroy_wait_set` look the element up and put back the item
that holds it. -/
def destroyHolder (b : Build) (p : PoolId) (holder : Growth.Element) : Prog RmwRet := do
  match itemOf (← readPool p) holder with
  | none => return .error
  | some item =>
    putMemory b p item
    return .ok

/-- `rmw_destroy_guard_condition`. -/
def rmwDestroyGuardCondition (b : Build) : Growth.Element → Prog RmwRet :=
  destroyHolder b .guardCondition

/-- `rmw_destroy_wait_set`. -/
def rmwDestroyWaitSet (b : Build) : Growth.Element → Prog RmwRet := destroyHolder b .waitSet

/-! ## The calls -/

/-- The functions that take or give back a mutex, directly or on the way. -/
inductive LockCall where
  | hasMemory (p : PoolId)
  | getMemory (p : PoolId)
  | putMemory (p : PoolId) (item : ItemAddr)
  | countStaticInputBuffer
  | getStaticInputBuffer (qos : RmwQosProfile)
  | findStaticInputBuffer
  | cleanExpiredStaticInputBuffer
  | callback (c : Callback)
  | wait (set : WaitSet Nat)
  | takeWithInfo
  | takeSequence (count : Nat)
  | takeRequest
  | takeResponse
  | createNode
  | createPublisher
  | createSubscription
  | createService
  | createClient
  | createGuardCondition
  | createWaitSet
  | destroyNode (node : Growth.Element)
  | destroyPublisher (publisher : Growth.Element)
  | destroySubscription (subscription : Growth.Element)
  | destroyService (service : Growth.Element)
  | destroyClient (client : Growth.Element)
  | destroyGuardCondition (guardCondition : Growth.Element)
  | destroyWaitSet (waitSet : Growth.Element)

/-- Running a call, whatever it returns. -/
def LockCall.run (b : Build) : LockCall → Prog Unit
  | .hasMemory p => do let _ ← Locked.hasMemory p
  | .getMemory p => do let _ ← Locked.getMemory b p
  | .putMemory p item => Locked.putMemory b p item
  | .countStaticInputBuffer => do let _ ← rmwUxrceCountStaticInputBufferForEntity
  | .getStaticInputBuffer qos => do let _ ← rmwUxrceGetStaticInputBufferForEntity b qos
  | .findStaticInputBuffer => do let _ ← rmwUxrceFindStaticInputBufferByOwner
  | .cleanExpiredStaticInputBuffer => rmwUxrceCleanExpiredStaticInputBuffer b
  | .callback c => c.run b
  | .wait set => do let _ ← rmwWait b set
  | .takeWithInfo => do let _ ← rmwTakeWithInfo b
  | .takeSequence count => do let _ ← rmwTakeSequence b count
  | .takeRequest => do let _ ← rmwTakeRequest b
  | .takeResponse => do let _ ← rmwTakeResponse b
  | .createNode => do let _ ← rmwCreateNode b
  | .createPublisher => do let _ ← rmwCreatePublisher b
  | .createSubscription => do let _ ← rmwCreateSubscription b
  | .createService => do let _ ← rmwCreateService b
  | .createClient => do let _ ← rmwCreateClient b
  | .createGuardCondition => do let _ ← rmwCreateGuardCondition b
  | .createWaitSet => do let _ ← rmwCreateWaitSet b
  | .destroyNode node => do let _ ← rmwDestroyNode b node
  | .destroyPublisher publisher => do let _ ← rmwDestroyPublisher b publisher
  | .destroySubscription subscription => do let _ ← rmwDestroySubscription b subscription
  | .destroyService service => do let _ ← rmwDestroyService b service
  | .destroyClient client => do let _ ← rmwDestroyClient b client
  | .destroyGuardCondition guardCondition => do let _ ← rmwDestroyGuardCondition b guardCondition
  | .destroyWaitSet waitSet => do let _ ← rmwDestroyWaitSet b waitSet

/-! ## Runs -/

/-- The memory once all pools are set up over arrays of the given sizes; `rmw_init` does not let the pool
of the static buffers grow. -/
def Memory.initial (sizes : PoolId → Nat) : Memory where
  pool p :=
    let mem := (Mempool.zero : Mempool ItemAddr Growth.Element).init .array (fun i => .mem (.array i)) (sizes p)
    if p = .staticBuffer then { mem with isDynamicAllowed := false } else mem
  blocks := 0
  conditions := []
  pointers := []
  runs := []

/-- A call, with the answers it gets. -/
structure LockStep where
  call : LockCall
  conditions : List Bool
  pointers : List Growth.Element
  runs : List SessionRun

/-- The thread makes a call. -/
def lockStep (b : Build) (t : Thread Memory Mutex) (i : LockStep) : Thread Memory Mutex :=
  (i.call.run b { t with
    memory := { t.memory with conditions := i.conditions, pointers := i.pointers, runs := i.runs } }).2

end RmwMicroxrcedds.Locked
