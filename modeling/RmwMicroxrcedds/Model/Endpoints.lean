import RmwMicroxrcedds.Model.Callbacks
import RmwMicroxrcedds.Model.Names

/-!
# `rmw_microxrcedds_topic.c`, `rmw_publisher.c` and `rmw_subscription.c`

A create function is cut at the pool access: the part before it rejects bad arguments, the body
runs on the element handed out and returns `false` where the source jumps to `fail`, and the fail
label releases what the body left behind.
-/

namespace RmwMicroxrcedds
set_option autoImplicit false

/-! ## Topics -/

/-- The request of `create_topic`, or `none` where a name does not fit its buffer. -/
def topicRequest (cfg : Config) (id participant : UxrObjectId) (topicName : CStr)
    (members : MessageTypeSupportCallbacks) : Option XrceRequest :=
  if cfg.useRefs then
    let (fits, profile) := buildTopicProfile topicName cfg.entityNamingBufferLength
    if fits then some (.create id participant [profile]) else none
  else
    let (topicFits, fullTopicName) := generateTopicName topicName cfg.topicNameMaxLength
    let (typeFits, typeName) := generateTypeName members cfg.typeNameMaxLength
    if topicFits ∧ typeFits then some (.create id participant [fullTopicName, typeName]) else none

/-- `create_topic` from the slot on. -/
def createTopicBody (cfg : Config) (customNode : Nat) (topicName : CStr)
    (members : MessageTypeSupportCallbacks) (topic : Nat) : Prog Bool := do
  writeElement .topic topic fun t =>
    { t with ownerNode := some customNode, messageTypeSupportCallbacks := some members }
  let context ← contextOf customNode
  let id ← postIncrement context (·.idTopic) fun v c => { c with idTopic := v }
  writeElement .topic topic fun t => { t with topicId := ⟨id, .topic⟩ }
  let participant := (← readElement .node customNode).participantId
  match topicRequest cfg ⟨id, .topic⟩ participant topicName members with
  | none => return false
  | some request =>
    runXrceSession cfg context (← readElement .session context).creationStream request

/-- `create_topic`. -/
def createTopic (cfg : Config) (customNode : Nat) (topicName : CStr)
    (members : MessageTypeSupportCallbacks) : Prog (Option Nat) := do
  match ← getMemory .topic with
  | none => return none
  | some topic =>
    if ← createTopicBody cfg customNode topicName members topic then
      return some topic
    else
      rmwUxrceFiniTopicMemory topic
      return none

/-- `destroy_topic`. -/
def destroyTopic (cfg : Config) (topic : Nat) : Prog RmwRet := do
  let t ← readElement .topic topic
  match t.ownerNode with
  | none => return .error
  | some customNode =>
    let context ← contextOf customNode
    let stream := (← readElement .session context).destroyStream
    let confirmed ← runXrceSession cfg context stream (.deleteEntity t.topicId)
    rmwUxrceFiniTopicMemory topic
    return if confirmed then .ok else .timeout

/-! ## Publishers -/

/-- The texts of the datawriter and datareader requests: the profile in the refs mode, nothing in
the binary mode. -/
def endpointTexts (cfg : Config) (profile : CStr → Nat → Bool × CStr) (topicName : CStr) :
    Option (List CStr) :=
  if cfg.useRefs then
    let (fits, name) := profile topicName cfg.entityNamingBufferLength
    if fits then some [name] else none
  else some []

/-- Running the request that creates an object, on the creation stream of its context. -/
def runCreation (cfg : Config) (context : Nat) (id parent : UxrObjectId) (texts : List CStr) :
    Prog Bool := do
  runXrceSession cfg context (← readElement .session context).creationStream
    (.create id parent texts)

/-- The two objects of a publisher: `create_publisher` and `create_datawriter`. -/
def createPublisherObjects (cfg : Config) (customNode : Nat) (topicName : CStr) (i : Nat) :
    Prog Bool := do
  let context ← contextOf customNode
  let id ← postIncrement context (·.idPublisher) fun v c => { c with idPublisher := v }
  writeElement .publisher i fun p => { p with publisherId := ⟨id, .publisher⟩ }
  let participant := (← readElement .node customNode).participantId
  if ← runCreation cfg context ⟨id, .publisher⟩ participant [] then
    let writer ← postIncrement context (·.idDatawriter) fun v c => { c with idDatawriter := v }
    writeElement .publisher i fun p => { p with datawriterId := ⟨writer, .datawriter⟩ }
    match endpointTexts cfg buildDatawriterProfile topicName with
    | none => return false
    | some texts => runCreation cfg context ⟨writer, .datawriter⟩ ⟨id, .publisher⟩ texts
  else return false

/-- `rmw_create_publisher` from the slot on. -/
def createPublisherBody (cfg : Config) (customNode : Nat)
    (typeSupport : TypeSupport MessageTypeSupportCallbacks) (topicName : CStr)
    (qosPolicies : RmwQosProfile) (i : Nat) : Prog Bool := do
  if cfg.topicNameMaxLength < topicName.length + 1 then return false
  else
    writeElement .publisher i fun p =>
      { p with
        topicName := topicName
        ownerNode := some customNode
        qos := qosPolicies
        streamId := if qosPolicies.reliability = .bestEffort then .bestEffort else .reliable }
    match typeSupport with
    | .undefined => return false
    | .nullData =>
      writeElement .publisher i fun p => { p with typeSupportCallbacks := none }
      return false
    | .callbacks members =>
      writeElement .publisher i fun p => { p with typeSupportCallbacks := some members }
      let topic ← createTopic cfg customNode topicName members
      writeElement .publisher i fun p => { p with topic := topic }
      if topic.isSome then createPublisherObjects cfg customNode topicName i
      else return false

/-- The label `fail` of `rmw_create_publisher`. -/
def createPublisherFail (i : Nat) : Prog Unit := do
  match (← readElement .publisher i).topic with
  | some topic => rmwUxrceFiniTopicMemory topic
  | none => pure ()
  rmwUxrceFiniPublisherMemory i

/-- `rmw_create_publisher`. -/
def rmwCreatePublisher (cfg : Config) (node : Option Nat)
    (typeSupport : Option (TypeSupport MessageTypeSupportCallbacks)) (topicName : Option CStr)
    (qosPolicies : Option RmwQosProfile) : Prog (Option Nat) := do
  match node, typeSupport, topicName, qosPolicies with
  | some node, some typeSupport, some topicName, some qosPolicies =>
    let handle := (← readElement .node node).rmwNode
    if isUxrceRmwIdentifierValid handle.implementationIdentifier = false ∨ topicName = [] then
      return none
    else
      match ← acquire .publisher id with
      | none => return none
      | some i =>
        if ← createPublisherBody cfg (deref handle.data) typeSupport topicName qosPolicies i then
          return some i
        else
          createPublisherFail i
          return none
  | _, _, _, _ => return none

/-- The checks the destroy functions of all four kinds begin with. -/
def destroyChecks {β : Type} [Element β] (k : Kind β) (node entity : Option Nat) :
    Prog (Option (Nat × Nat)) := do
  match node, entity with
  | some node, some entity =>
    let nodeHandle := (← readElement .node node).rmwNode
    let handle := Element.handle (← readElement k entity)
    if isUxrceRmwIdentifierValid nodeHandle.implementationIdentifier ∧
        isUxrceRmwIdentifierValid handle.implementationIdentifier then
      match nodeHandle.data, handle.data with
      | some customNode, some custom => return some (customNode, custom)
      | _, _ => return none
    else return none
  | _, _ => return none

/-- Running a request on the destroy stream of a context. -/
def runDestruction (cfg : Config) (context : Nat) (request : XrceRequest) : Prog Bool := do
  runXrceSession cfg context (← readElement .session context).destroyStream request

/-- `rmw_destroy_publisher`. -/
def rmwDestroyPublisher (cfg : Config) (node publisher : Option Nat) : Prog RmwRet := do
  match ← destroyChecks .publisher node publisher with
  | none => return .error
  | some (_, custom) =>
    let customPublisher ← readElement .publisher custom
    let context ← contextOf (deref customPublisher.ownerNode)
    let _ ← destroyTopic cfg (deref customPublisher.topic)
    let writer ← runDestruction cfg context (.deleteEntity customPublisher.datawriterId)
    let ret ← runDestruction cfg context (.deleteEntity customPublisher.publisherId)
    rmwUxrceFiniPublisherMemory (deref publisher)
    return if writer ∧ ret then .ok else .timeout

/-! ## Subscriptions -/

/-- The two objects of a subscription: subscriber and datareader. From the assignment of
`datareader_id` on, `on_topic` finds the subscription by an id of its own. -/
def createSubscriptionObjects (cfg : Config) (customNode : Nat) (topicName : CStr) (i : Nat) :
    Prog Bool := do
  let context ← contextOf customNode
  let id ← postIncrement context (·.idSubscriber) fun v c => { c with idSubscriber := v }
  writeElement .subscription i fun p => { p with subscriberId := ⟨id, .subscriber⟩ }
  let participant := (← readElement .node customNode).participantId
  if ← runCreation cfg context ⟨id, .subscriber⟩ participant [] then
    let reader ← postIncrement context (·.idDatareader) fun v c => { c with idDatareader := v }
    writeElement .subscription i fun p => { p with datareaderId := ⟨reader, .datareader⟩ }
    modify (·.mapGhost (·.given (.subscription i)))
    match endpointTexts cfg buildDatareaderProfile topicName with
    | none => return false
    | some texts => runCreation cfg context ⟨reader, .datareader⟩ ⟨id, .subscriber⟩ texts
  else return false

/-- `rmw_create_subscription` from the slot on. -/
def createSubscriptionBody (cfg : Config) (customNode : Nat)
    (typeSupport : TypeSupport MessageTypeSupportCallbacks) (topicName : CStr)
    (qosPolicies : RmwQosProfile) (i : Nat) : Prog Bool := do
  if cfg.topicNameMaxLength < topicName.length + 1 then return false
  else
    writeElement .subscription i fun p =>
      { p with topicName := topicName, ownerNode := some customNode, qos := qosPolicies }
    match typeSupport with
    | .undefined => return false
    | .nullData =>
      writeElement .subscription i fun p => { p with typeSupportCallbacks := none }
      return false
    | .callbacks members =>
      writeElement .subscription i fun p => { p with typeSupportCallbacks := some members }
      let topic ← createTopic cfg customNode topicName members
      writeElement .subscription i fun p => { p with topic := topic }
      if topic.isSome then createSubscriptionObjects cfg customNode topicName i
      else return false

/-- The label `fail` of `rmw_create_subscription`. -/
def createSubscriptionFail (i : Nat) : Prog Unit := do
  match (← readElement .subscription i).topic with
  | some topic => rmwUxrceFiniTopicMemory topic
  | none => pure ()
  rmwUxrceFiniSubscriptionMemory i

/-- `rmw_create_subscription`. -/
def rmwCreateSubscription (cfg : Config) (node : Option Nat)
    (typeSupport : Option (TypeSupport MessageTypeSupportCallbacks)) (topicName : Option CStr)
    (qosPolicies : Option RmwQosProfile) : Prog (Option Nat) := do
  match node, typeSupport, topicName, qosPolicies with
  | some node, some typeSupport, some topicName, some qosPolicies =>
    let handle := (← readElement .node node).rmwNode
    if isUxrceRmwIdentifierValid handle.implementationIdentifier = false ∨ topicName = [] then
      return none
    else
      match ← acquire .subscription id with
      | none => return none
      | some i =>
        if ← createSubscriptionBody cfg (deref handle.data) typeSupport topicName qosPolicies i then
          return some i
        else
          createSubscriptionFail i
          return none
  | _, _, _, _ => return none

/-- `rmw_destroy_subscription`. -/
def rmwDestroySubscription (cfg : Config) (node subscription : Option Nat) : Prog RmwRet := do
  match ← destroyChecks .subscription node subscription with
  | none => return .error
  | some (_, custom) =>
    let customSubscription ← readElement .subscription custom
    let context ← contextOf (deref customSubscription.ownerNode)
    let _ ← runDestruction cfg context (.cancelData customSubscription.datareaderId)
    let _ ← destroyTopic cfg (deref customSubscription.topic)
    let reader ← runDestruction cfg context (.deleteEntity customSubscription.datareaderId)
    let ret ← runDestruction cfg context (.deleteEntity customSubscription.subscriberId)
    rmwUxrceFiniSubscriptionMemory (deref subscription)
    return if reader ∧ ret then .ok else .timeout

end RmwMicroxrcedds
