import RmwMicroxrcedds.Model.Services

/-!
# `rmw_node.c`, `rmw_init.c` and `rmw_graph.c`: nodes and contexts

What the environment decides about an initialisation (whether the transport opens, the clock
offset of a fresh session, the type support of the graph message) is an argument; what the agent
answers is part of the script.
-/

namespace RmwMicroxrcedds
set_option autoImplicit false

/-! ## Nodes -/

/-- The text of the participant request, or `none` where the reference does not fit. -/
def participantText (cfg : Config) (name namespace_ : CStr) : Option CStr :=
  if cfg.useRefs then
    let (fits, profile) := buildParticipantProfile cfg.entityNamingBufferLength
    if fits then some profile else none
  else
    some (snprintf cfg.nodeNameMaxLength
      (if namespace_ = ['/'] then name else namespace_ ++ ['/'] ++ name)).1

/-- `create_node`. Where the reference does not fit, the function returns without releasing the
element. -/
def createNode (cfg : Config) (name namespace_ : CStr) (context : Option Nat) :
    Prog (Option Nat) := do
  match ← acquire .node fun n => { n with context := context } with
  | none => return none
  | some i =>
    if cfg.nodeNameMaxLength < name.length + 1 then
      rmwUxrceFiniNodeMemory i
      return none
    else
      writeElement .node i fun n => { n with nodeName := name }
      if cfg.nodeNameMaxLength < namespace_.length + 1 then
        rmwUxrceFiniNodeMemory i
        return none
      else
        writeElement .node i fun n => { n with nodeNamespace := namespace_ }
        let id ← postIncrement (deref context) (·.idParticipant) fun v c => { c with idParticipant := v }
        writeElement .node i fun n => { n with participantId := ⟨id, .participant⟩ }
        match participantText cfg name namespace_ with
        | none => return none
        | some text =>
          let stream := (← readElement .session (deref context)).creationStream
          if ← runXrceSession cfg (deref context) stream
              (.create ⟨id, .participant⟩ none [text]) then
            return some i
          else
            rmwUxrceFiniNodeMemory i
            return none

/-- `rmw_create_node`. -/
def rmwCreateNode (cfg : Config) (context : Option Nat) (name namespace_ : Option CStr) :
    Prog (Option Nat) := do
  match name, namespace_ with
  | some name, some namespace_ =>
    if name = [] ∨ namespace_ = [] then return none
    else createNode cfg name namespace_ context
  | _, _ => return none

/-- The loops of `rmw_destroy_node` and `rmw_context_fini` over an allocated list: each element
that belongs to what is destroyed is destroyed, `item->next` being read before; `stop` tells when
the loop is left early, with the function. -/
def destroyLoop {β : Type} (k : Kind β) (mine : β → Bool) (destroy : Nat → Prog RmwRet)
    (stop : RmwRet → Bool) : Nat → Option Nat → RmwRet → Prog (Bool × RmwRet)
  | 0, _, ret => return (false, ret)
  | _ + 1, none, ret => return (false, ret)
  | fuel + 1, some item, ret => do
    let t := k.slots (← get).w.ent
    let custom := t.memory.elem item
    let next := (t.memory.link item).next
    if mine (t.custom custom) then
      let ret ← destroy custom
      if stop ret then return (true, ret)
      else destroyLoop k mine destroy stop fuel next ret
    else destroyLoop k mine destroy stop fuel next ret

/-- One such loop, from the head of the list. -/
def destroyAll {β : Type} (k : Kind β) (mine : β → Bool) (destroy : Nat → Prog RmwRet)
    (stop : RmwRet → Bool) (ret : RmwRet) : Prog (Bool × RmwRet) := do
  let memory := (k.slots (← get).w.ent).memory
  destroyLoop k mine destroy stop memory.size memory.allocateditems ret

/-- The end of `rmw_destroy_node`, after the four loops. -/
def destroyParticipant (cfg : Config) (node customNode : Nat) (ret : RmwRet) : Prog RmwRet := do
  let custom ← readElement .node customNode
  let confirmed ← runDestruction cfg (deref custom.context) (.deleteEntity custom.participantId)
  rmwUxrceFiniNodeMemory node
  return if confirmed then ret else .timeout

/-- `rmw_destroy_node`. -/
def rmwDestroyNode (cfg : Config) (node : Option Nat) : Prog RmwRet := do
  match node with
  | none => return .error
  | some n =>
    let handle := (← readElement .node n).rmwNode
    if handle.implementationIdentifier = some .foreign then return .error
    else
      match handle.data with
      | none => return .error
      | some customNode =>
        let isError := fun ret : RmwRet => ret == .error
        let (stopped, ret) ← destroyAll .publisher (·.ownerNode == some customNode)
          (fun i => rmwDestroyPublisher cfg node (some i)) isError .ok
        if stopped then return ret
        else
          let (stopped, ret) ← destroyAll .subscription (·.ownerNode == some customNode)
            (fun i => rmwDestroySubscription cfg node (some i)) isError ret
          if stopped then return ret
          else
            let (stopped, ret) ← destroyAll .service (·.ownerNode == some customNode)
              (fun i => rmwDestroyService cfg node (some i)) isError ret
            if stopped then return ret
            else
              let (stopped, ret) ← destroyAll .client (·.ownerNode == some customNode)
                (fun i => rmwDestroyClient cfg node (some i)) isError ret
              if stopped then return ret
              else destroyParticipant cfg n customNode ret

/-! ## The graph -/

/-- Writing fields of the graph info of a context. -/
def writeGraphInfo (context : Nat) (f : GraphInfo → GraphInfo) : Prog Unit :=
  modify (·.mapBuf fun b => { b with graphInfo := setAt b.graphInfo context (f (b.graphInfo context)) })

/-- The profile of the graph subscription. -/
def graphSubscriptionQosPolicies : RmwQosProfile where
  history := .keepLast
  depth := 1
  reliability := .reliable
  lifespan := rmwDurationUnspecified
  avoidRosNamespaceConventions := true

def graphTopicName : CStr := "ros_to_microros_graph".toList

/-- `rmw_graph_init`. -/
def rmwGraphInit (cfg : Config) (graphTypeSupport : MessageTypeSupportCallbacks) (context : Nat) :
    Prog RmwRet := do
  let participant ← postIncrement context (·.idParticipant) fun v c => { c with idParticipant := v }
  let subscriber ← postIncrement context (·.idSubscriber) fun v c => { c with idSubscriber := v }
  let datareader ← postIncrement context (·.idDatareader) fun v c => { c with idDatareader := v }
  let topic ← postIncrement context (·.idTopic) fun v c => { c with idTopic := v }
  writeGraphInfo context fun g =>
    { g with
      initialized := false
      hasChanged := false
      participantId := ⟨participant, .participant⟩
      subscriberId := ⟨subscriber, .subscriber⟩
      datareaderId := ⟨datareader, .datareader⟩
      topicId := ⟨topic, .topic⟩ }
  let (topicXml, _) := buildTopicXml cfg graphTopicName graphTypeSupport
    graphSubscriptionQosPolicies [] cfg.entityNamingBufferLength
  let (datareaderXml, _) := buildDatareaderXml cfg graphTopicName graphTypeSupport
    graphSubscriptionQosPolicies [] cfg.entityNamingBufferLength
  if topicXml = 0 ∨ datareaderXml = 0 then return .error
  else
    let confirmed ← uxrRunSession cfg context
    modify (·.record (.ran context (.createGraph [⟨participant, .participant⟩,
      ⟨subscriber, .subscriber⟩, ⟨topic, .topic⟩, ⟨datareader, .datareader⟩]) confirmed))
    return if confirmed then .ok else .error

/-! ## Contexts -/

/-- What the operating system and the client library decide about the opening of a transport. -/
structure TransportEnvironment where
  /-- what `open` returns for the serial device -/
  fd : Int
  tcgetattr : Int
  tcsetattr : Int
  /-- what `uxr_init_serial_transport`, or its sibling of the build, returns -/
  initTransport : Bool
  /-- whether a sibling that fails leaves its connection open -/
  leavesOpen : Bool

/-- What `rmw_uxrce_transport_init` does: what it returns, whether something is open behind it, and whether
the struct of the context refers to that. -/
structure TransportInit where
  ret : RmwRet
  opened : Bool
  held : Bool

/-- `rmw_uxrce_transport_init`. -/
def rmwUxrceTransportInit (transport : Transport) (env : TransportEnvironment) : TransportInit :=
  match transport with
  | .serial =>
    if 0 < env.fd then
      -- the struct gets the descriptor from the library's function, which comes last
      if env.tcgetattr ≠ 0 then ⟨.error, true, false⟩
      else if env.tcsetattr ≠ 0 then ⟨.error, true, false⟩
      else if env.initTransport then ⟨.ok, true, true⟩
      else ⟨.error, true, true⟩
    else ⟨.error, decide (env.fd = 0), false⟩
  | .udp | .tcp | .custom =>
    if env.initTransport then ⟨.ok, true, true⟩
    else ⟨.error, env.leavesOpen, true⟩

/-- Whether `CLOSE_TRANSPORT` is defined as more than nothing. -/
def Transport.closes : Transport → Bool
  | .serial | .udp | .custom => true
  | .tcp => false

/-- What the environment decides about one `rmw_init`. -/
structure InitEnvironment where
  transport : TransportEnvironment
  timeOffset : Int
  graphTypeSupport : MessageTypeSupportCallbacks

/-- The fields of a context that `rmw_init` sets before it opens the transport. -/
def initContext (cfg : Config) (env : InitEnvironment) (c : Session) : Session :=
  { c with
    creationTimeout := cfg.entityCreationTimeout
    destroyTimeout := cfg.entityDestroyTimeout
    creationStream := if 0 < cfg.entityCreationTimeout then .reliable else .bestEffort
    destroyStream := if 0 < cfg.entityDestroyTimeout then .reliable else .bestEffort
    idParticipant := 0, idTopic := 0, idPublisher := 0, idDatawriter := 0
    idSubscriber := 0, idDatareader := 0, idRequester := 0, idReplier := 0
    graphGuardCondition := ⟨some .eprosimaMicroxrcedds, none⟩
    timeOffset := env.timeOffset }

/-- The pools `rmw_init` sets up before it takes a session. -/
def initFirstPools (cfg : Config) : Prog Unit := do
  modify (·.mapEnt fun e => { e with session := e.session.init cfg.maxSessions })
  modify (·.mapBuf fun b => { b with staticBuffer := b.staticBuffer.init cfg.maxHistory })

/-- The pools `rmw_init` sets up once it has a session. -/
def initPools (cfg : Config) : Prog Unit :=
  modify (·.mapEnt fun e => { e with
    node := e.node.init cfg.maxNodes
    subscription := e.subscription.init cfg.maxSubscriptions
    publisher := e.publisher.init cfg.maxPublishers
    service := e.service.init cfg.maxServices
    client := e.client.init cfg.maxClients
    topic := e.topic.init cfg.maxTopicsInternal
    guardCondition := e.guardCondition.init cfg.maxGuardCondition })

/-- The opening of the transport, with which a new session epoch begins. -/
def openTransport (context : Nat) (opened : Bool) : Prog Unit :=
  modify fun s => (s.mapGhost fun g => { g with epoch := g.epoch + 1 }).record
    (.openTransport context opened)

/-- `CLOSE_TRANSPORT`, which closes what the struct of the context refers to. -/
def closeTransport (cfg : Config) (context : Nat) (held : Bool) : Prog Unit :=
  if cfg.transport.closes = true ∧ held = true then modify (·.record (.closeTransport context)) else return ()

/-- The failing exits of `rmw_init` after the session was taken: `CLOSE_TRANSPORT` and
`put_memory`. -/
def initFail (cfg : Config) (context : Nat) (held : Bool) : Prog Unit := do
  closeTransport cfg context held
  putMemory .session context

/-- The opening of the transport in `rmw_init`. -/
def InitEnvironment.transportInit (env : InitEnvironment) (cfg : Config) : TransportInit :=
  rmwUxrceTransportInit cfg.transport env.transport

/-- `rmw_init`, with `context->impl` afterwards. -/
def rmwInit (cfg : Config) (env : InitEnvironment) : Prog (RmwRet × Option Nat) := do
  initFirstPools cfg
  match ← getMemory .session with
  | none => return (.error, none)
  | some context =>
    writeElement .session context (initContext cfg env)
    initPools cfg
    openTransport context (env.transportInit cfg).opened
    if (env.transportInit cfg).ret ≠ .ok then
      initFail cfg context (env.transportInit cfg).held
      return ((env.transportInit cfg).ret, none)
    else
      if ← uxrRunSession cfg context then
        if cfg.graph then
          if (← rmwGraphInit cfg env.graphTypeSupport context) ≠ .ok then
            let _ ← uxrRunSession cfg context
            return (.error, some context)
          else return (.ok, some context)
        else return (.ok, some context)
      else
        initFail cfg context (env.transportInit cfg).held
        return (.error, none)

/-- `rmw_context_fini`, on the `impl` of the context. -/
def rmwContextFini (cfg : Config) (impl : Option Nat) : Prog RmwRet := do
  let (_, ret) ← destroyAll .node (·.context == impl) (fun i => rmwDestroyNode cfg (some i))
    (fun _ => false) .ok
  match impl with
  | none => return ret
  | some context =>
    if (← readElement .session context).destroyStream ≠ .bestEffort then
      let _ ← uxrRunSession cfg context
    rmwUxrceFiniSessionMemory context
    closeTransport cfg context true
    return ret

/-- The loop of `rmw_shutdown` that empties the static buffer pool. -/
def flushLoop : Nat → Option Nat → State → State
  | 0, _, s => s
  | _ + 1, none, s => s
  | k + 1, some item, s =>
    let auxNext := (s.w.buf.staticBuffer.memory.link item).next
    flushLoop k auxNext ((s.record (.flush item)).mapBuf (·.putMemory item))

/-- `rmw_shutdown`, on the `impl` of the context. -/
def rmwShutdown (cfg : Config) (impl : Option Nat) : Prog RmwRet := do
  let ret ← rmwContextFini cfg impl
  modify fun s =>
    flushLoop s.w.buf.staticBuffer.memory.size s.w.buf.staticBuffer.memory.allocateditems s
  return ret

end RmwMicroxrcedds
