import RmwMicroxrcedds.Base.Cdr
import RmwMicroxrcedds.Model.System

/-!
# `rmw_count.c`, `rmw_get_topic_endpoint_info.c`: queries on the graph

The message type of the graph is generated and its serialisation is Micro-CDR: the two kind
constants and the readers are arguments. A query that would dereference NULL has no result.
-/

namespace RmwMicroxrcedds
set_option autoImplicit false

/-! ## The graph message -/

/-- `micro_ros_msgs__msg__Entity`. -/
structure GraphEntity where
  entityType : UInt8
  name : CStr
  types : List CStr
deriving DecidableEq

/-- `micro_ros_msgs__msg__Node`. -/
structure GraphNode where
  nodeNamespace : CStr
  nodeName : CStr
  entities : List GraphEntity
deriving DecidableEq

/-- `micro_ros_msgs__msg__Graph`. -/
structure Graph where
  nodes : List GraphNode
deriving DecidableEq

/-- `micro_ros_msgs__msg__Entity__PUBLISHER` and `..__SUBSCRIBER`. -/
structure EntityKinds where
  publisher : UInt8
  subscriber : UInt8

/-- The readers of Micro-CDR on its buffers; a reader that reports failure gives nothing. -/
structure Ucdr (β : Type) where
  initBuffer : List UInt8 → Nat → β
  deserializeUint32T : β → Option (UInt32 × β)
  deserializeUint8T : β → Option (UInt8 × β)
  deserializeString : Nat → β → Option (CStr × β)

/-- Micro-CDR on little-endian buffers. -/
def cdr : Ucdr Cdr.Cursor where
  initBuffer bytes length := (0, bytes.take length)
  deserializeUint32T := Cdr.readUint32
  deserializeUint8T := Cdr.readUint8
  deserializeString := Cdr.readString

section Parser

variable {α β : Type} (ucdr : Ucdr β)

/-- A function that reads on in a buffer. -/
abbrev Reader (β : Type) := StateT β Option

/-- `sizeof(temp_string)`. -/
def tempStringSize : Nat := 256

/-- A sequence: its size, then so many items. -/
def readSequence (item : Reader β α) : Reader β (List α) := do
  let size ← ucdr.deserializeUint32T
  (List.range size.toNat).mapM fun _ => item

def readEntity : Reader β GraphEntity := do
  let entityType ← ucdr.deserializeUint8T
  let name ← ucdr.deserializeString tempStringSize
  let types ← readSequence ucdr (ucdr.deserializeString tempStringSize)
  return { entityType := entityType, name := name, types := types }

def readNode : Reader β GraphNode := do
  let nodeNamespace ← ucdr.deserializeString tempStringSize
  let nodeName ← ucdr.deserializeString tempStringSize
  let entities ← readSequence ucdr (readEntity ucdr)
  return { nodeNamespace := nodeNamespace, nodeName := nodeName, entities := entities }

/-- `rmw_graph_fill_data_from_buffer`. Nothing stands for `RMW_RET_ERROR`: the callers destroy what
was filled in by then without looking at it. -/
def rmwGraphFillDataFromBuffer (graphInfo : GraphInfo) : Option Graph := do
  let tempBuffer := ucdr.initBuffer graphInfo.microBuffer graphInfo.microBufferLength
  let (nodes, _) ← readSequence ucdr (readNode ucdr) tempBuffer
  return { nodes := nodes }

end Parser

/-! ## Counting -/

section Queries

variable {β : Type} (cfg : Config) (ucdr : Ucdr β) (kinds : EntityKinds)

/-- `custom_node->context->graph_info` for the handle of a node. -/
def World.graphInfoOf (w : World) (handle : Handle) : Option GraphInfo := do
  let customNode ← handle.data
  let context ← (w.ent.node.custom customNode).context
  return w.buf.graphInfo context

/-- `__rmw_count_entities`. `count` is what the pointer points to, before and after. -/
def rmwCountEntities (kind : UInt8) (w : World) (node : Option Nat) (topicName : Option CStr)
    (count : Option Nat) : Option (RmwRet × Option Nat) :=
  match node with
  | none => some (.invalidArgument, count)
  | some node =>
    let handle := (w.ent.node.custom node).rmwNode
    if handle.implementationIdentifier = some .foreign then some (.incorrectRmwImplementation, count)
    else
      match topicName, count with
      | some topicName, some _ => do
        let graphInfo ← w.graphInfoOf handle
        if graphInfo.initialized then
          match rmwGraphFillDataFromBuffer ucdr graphInfo with
          | none => return (.error, some 0)
          | some graphData =>
            let count := graphData.nodes.foldl (fun count node =>
              node.entities.foldl (fun count entity =>
                if topicName = entity.name ∧ kind = entity.entityType then count + 1 else count)
                count) 0
            return (.ok, some count)
        else return (.ok, some 0)
      | _, _ => some (.invalidArgument, count)

/-- `rmw_count_publishers`. -/
def rmwCountPublishers (w : World) (node : Option Nat) (topicName : Option CStr)
    (count : Option Nat) : Option (RmwRet × Option Nat) :=
  if cfg.graph then rmwCountEntities ucdr kinds.publisher w node topicName count
  else some (.unsupported, count)

/-- `rmw_count_subscribers`. -/
def rmwCountSubscribers (w : World) (node : Option Nat) (topicName : Option CStr)
    (count : Option Nat) : Option (RmwRet × Option Nat) :=
  if cfg.graph then rmwCountEntities ucdr kinds.subscriber w node topicName count
  else some (.unsupported, count)

/-! ## Endpoint infos -/

/-- `rmw_endpoint_type_t`. -/
inductive EndpointType where
  | invalid | publisher | subscription
deriving DecidableEq, Inhabited

/-- `rmw_topic_endpoint_info_t`, without the gid and the profile, which are left blank. -/
structure TopicEndpointInfo where
  nodeName : Option CStr
  nodeNamespace : Option CStr
  topicType : Option CStr
  endpointType : EndpointType
deriving DecidableEq, Inhabited

/-- `__endpoint_kind_to_endpoint_type`. -/
def endpointKindToEndpointType (kind : UInt8) : EndpointType :=
  if kind = kinds.publisher then .publisher
  else if kind = kinds.subscriber then .subscription
  else .invalid

/-- An allocator: whether it grants its requests, counted from the first. -/
abbrev Allocator := Nat → Bool

/-- The array that is filled in, and the number of requests to the allocator so far. -/
structure InfoState where
  endpointsInfo : List TopicEndpointInfo
  requests : Nat

/-- A part of `__rmw_get_endpoint_info_by_topic`: it goes on, goes to `fini` with a code, or
dereferences NULL. -/
abbrev InfoProg := ExceptT RmwRet (StateT InfoState Option)

/-- A dereference of NULL. -/
def InfoProg.crash : InfoProg Unit := fun _ => none

/-- A request to the allocator. -/
def InfoProg.request (allocator : Allocator) : InfoProg Bool := do
  let s ← get
  set { s with requests := s.requests + 1 }
  return allocator s.requests

/-- Writing a field of an entry. -/
def InfoProg.writeEntry (position : Nat) (f : TopicEndpointInfo → TopicEndpointInfo) :
    InfoProg Unit :=
  modify fun s => { s with endpointsInfo := s.endpointsInfo.modify position f }

/-- One text of an entry: a zeroed block for it, and then the setter of `rmw`, which stores a copy
in a block of its own. -/
def InfoProg.setText (allocator : Allocator) (position : Nat)
    (field : Option CStr → TopicEndpointInfo → TopicEndpointInfo) (text : CStr) :
    InfoProg Unit := do
  let zeroed ← request allocator
  writeEntry position (field (if zeroed then some [] else none))
  if ← request allocator then writeEntry position (field (some text))
  else throw .error

/-- Room for one more entry. -/
def InfoProg.addEntry (allocator : Allocator) : InfoProg Unit := do
  let granted ← request allocator
  if (← get).endpointsInfo = [] then
    -- `rmw_topic_endpoint_info_array_init_with_size`
    if !granted then throw .error
  else
    -- a failing `reallocate` is not noticed before the new entry is written to
    if !granted then crash
  modify fun s => { s with endpointsInfo := s.endpointsInfo ++ [default] }

/-- `types.data[0]`: a sequence without items has no data. -/
def InfoProg.setFirstType (allocator : Allocator) (position : Nat) : List CStr → InfoProg Unit
  | [] => crash
  | firstType :: _ =>
    setText allocator position (fun text info => { info with topicType := text }) firstType

open InfoProg in
/-- One matching entity. -/
def addEndpointInfo (allocator : Allocator) (kind : UInt8) (node : GraphNode)
    (entity : GraphEntity) : InfoProg Unit := do
  let currentPosition := (← get).endpointsInfo.length
  addEntry allocator
  setText allocator currentPosition (fun text info => { info with nodeName := text })
    node.nodeName
  setText allocator currentPosition (fun text info => { info with nodeNamespace := text })
    node.nodeNamespace
  setFirstType allocator currentPosition entity.types
  writeEntry currentPosition fun info =>
    { info with endpointType := endpointKindToEndpointType kinds kind }

/-- The two loops of `__rmw_get_endpoint_info_by_topic`. -/
def addEndpointInfos (allocator : Allocator) (kind : UInt8) (topicName : CStr) (graphData : Graph) :
    InfoProg Unit :=
  graphData.nodes.forM fun node => node.entities.forM fun entity =>
    if topicName = entity.name ∧ kind = entity.entityType then
      addEndpointInfo kinds allocator kind node entity
    else pure ()

/-- `__rmw_get_endpoint_info_by_topic`. `endpointsInfo` is the array the pointer points to, before
and after. -/
def rmwGetEndpointInfoByTopic (kind : UInt8) (w : World) (node : Option Nat)
    (allocator : Option Allocator) (topicName : CStr) (endpointsInfo : Option (List TopicEndpointInfo)) :
    Option (RmwRet × Option (List TopicEndpointInfo)) :=
  match node with
  | none => some (.invalidArgument, endpointsInfo)
  | some node =>
    let handle := (w.ent.node.custom node).rmwNode
    if handle.implementationIdentifier = some .foreign then
      some (.incorrectRmwImplementation, endpointsInfo)
    else
      match allocator, endpointsInfo with
      | some allocator, some [] => do
        let graphInfo ← w.graphInfoOf handle
        if graphInfo.initialized then
          match rmwGraphFillDataFromBuffer ucdr graphInfo with
          | none => return (.error, some [])
          | some graphData =>
            match ← addEndpointInfos kinds allocator kind topicName graphData ⟨[], 0⟩ with
            | (.ok _, s) => return (.ok, some s.endpointsInfo)
            | (.error ret, s) => return (ret, some s.endpointsInfo)
        else return (.ok, some [])
      | _, _ => some (.invalidArgument, endpointsInfo)

/-- `rmw_get_publishers_info_by_topic`. -/
def rmwGetPublishersInfoByTopic (w : World) (node : Option Nat) (allocator : Option Allocator)
    (topicName : CStr) (publishersInfo : Option (List TopicEndpointInfo)) :
    Option (RmwRet × Option (List TopicEndpointInfo)) :=
  if cfg.graph then
    rmwGetEndpointInfoByTopic ucdr kinds kinds.publisher w node allocator topicName publishersInfo
  else some (.unsupported, publishersInfo)

/-- `rmw_get_subscriptions_info_by_topic`. -/
def rmwGetSubscriptionsInfoByTopic (w : World) (node : Option Nat) (allocator : Option Allocator)
    (topicName : CStr) (subscriptionsInfo : Option (List TopicEndpointInfo)) :
    Option (RmwRet × Option (List TopicEndpointInfo)) :=
  if cfg.graph then
    rmwGetEndpointInfoByTopic ucdr kinds kinds.subscriber w node allocator topicName
      subscriptionsInfo
  else some (.unsupported, subscriptionsInfo)

/-! ## Matched endpoints -/

/-- What both counts of matched endpoints do with the answer to their query; destroying the array
succeeds. -/
def countMatched (info : Option (RmwRet × Option (List TopicEndpointInfo))) (count : Nat) :
    Option (RmwRet × Nat) := do
  match ← info with
  | (.ok, endpointsInfo) => return (.ok, (endpointsInfo.getD []).length)
  | _ => return (.error, count)

/-- `rmw_publisher_count_matched_subscriptions`. `allocator` is the default one. -/
def rmwPublisherCountMatchedSubscriptions (allocator : Allocator) (w : World) (publisher : Nat)
    (subscriptionCount : Nat) : Option (RmwRet × Nat) :=
  if cfg.graph then do
    let topicName := (w.ent.publisher.custom publisher).topicName
    let customPublisher ← (w.ent.publisher.custom publisher).rmwPublisher.data
    let node ← (w.ent.publisher.custom customPublisher).ownerNode
    countMatched
      (rmwGetSubscriptionsInfoByTopic cfg ucdr kinds w (some node) (some allocator) topicName
        (some []))
      subscriptionCount
  else some (.unsupported, subscriptionCount)

/-- `rmw_subscription_count_matched_publishers`. `allocator` is the default one. -/
def rmwSubscriptionCountMatchedPublishers (allocator : Allocator) (w : World) (subscription : Nat)
    (publisherCount : Nat) : Option (RmwRet × Nat) :=
  if cfg.graph then do
    let topicName := (w.ent.subscription.custom subscription).topicName
    let customSubscription ← (w.ent.subscription.custom subscription).rmwSubscription.data
    let node ← (w.ent.subscription.custom customSubscription).ownerNode
    countMatched
      (rmwGetPublishersInfoByTopic cfg ucdr kinds w (some node) (some allocator) topicName
        (some []))
      publisherCount
  else some (.unsupported, publisherCount)

end Queries

/-! ## A small graph -/

namespace Small

def kinds : EntityKinds := ⟨0, 1⟩

/-- A graph of the node `n` with one publisher of `t`, which lists so many types, each named `m`. -/
def graphSample (types : Nat) : List UInt8 :=
  [1, 0, 0, 0, 2, 0, 0, 0, 47, 0, 0, 0, 2, 0, 0, 0, 110, 0, 0, 0, 1, 0, 0, 0, 0, 0, 0, 0,
    2, 0, 0, 0, 116, 0, 0, 0, UInt8.ofNat types, 0, 0, 0] ++
    (List.replicate types [2, 0, 0, 0, 109, 0, 0, 0]).flatten

/-- What it decodes to. -/
def graphOf (types : Nat) : Graph :=
  ⟨[⟨['/'], ['n'], [⟨0, ['t'], List.replicate types ['m']⟩]⟩]⟩

/-- The sample comes in while a node is created; the node gets a publisher and a subscription. -/
def graphRun (types : Nat) : List Step :=
  [init 0,
    ⟨.createNode 1 (some ['n']) (some ['/']), ⟨[sample 0 (graphSample types)], true⟩ :: confirming⟩,
    ⟨.createPublisher (some 1) (some typeSupport) (some ['t']) (some (profile 1 ⟨0, 0⟩)), confirming⟩,
    createSubscription 1 (profile 1 ⟨0, 0⟩)]

end Small

end RmwMicroxrcedds
