import RmwMicroxrcedds.Model.Endpoints

/-!
# `rmw_service.c` and `rmw_client.c`

A service is one replier and a client one requester. The id by which the callbacks know them is
the number the client library allots to the final data request: it is an input of the create
functions.
-/

namespace RmwMicroxrcedds
set_option autoImplicit false

/-- The texts of the replier and requester requests, or `none` where a name does not fit: the
names in the binary mode, a document in the refs mode. -/
def serviceTexts (cfg : Config) (id : UxrObjectId) (serviceName : CStr) (requester : Bool)
    (members : ServiceTypeSupportCallbacks) (qosPolicies : RmwQosProfile) : Option (List CStr) :=
  if cfg.useRefs then
    let (_, serviceNameId) := generateName id 20
    let (written, xml) := buildServiceXml cfg serviceNameId serviceName requester members
      qosPolicies [] cfg.entityNamingBufferLength
    if written = 0 then none else some [xml]
  else
    let (typesFit, reqTypeName, resTypeName) := generateServiceTypes members cfg.typeNameMaxLength
    let (topicsFit, reqTopicName, resTopicName) :=
      generateServiceTopics serviceName cfg.topicNameMaxLength
    if typesFit ∧ topicsFit then
      some [serviceName, reqTypeName, resTypeName, reqTopicName, resTopicName]
    else none

/-- The stream a service or client writes on. -/
def outputStream (qosPolicies : RmwQosProfile) : UxrStreamType :=
  if qosPolicies.reliability = .bestEffort then .bestEffort else .reliable

/-! ## Services -/

/-- The replier of a service, and the request for its data. -/
def createServiceObject (cfg : Config) (customNode : Nat) (members : ServiceTypeSupportCallbacks)
    (serviceName : CStr) (qosPolicies : RmwQosProfile) (requestId i : Nat) : Prog Bool := do
  let context ← contextOf customNode
  let id ← postIncrement context (·.idReplier) fun v c => { c with idReplier := v }
  writeElement .service i fun p => { p with serviceId := ⟨id, .replier⟩ }
  let participant := (← readElement .node customNode).participantId
  match serviceTexts cfg ⟨id, .replier⟩ serviceName false members qosPolicies with
  | none => return false
  | some texts =>
    if ← runCreation cfg context ⟨id, .replier⟩ participant texts then
      writeElement .service i fun p =>
        { p with streamId := outputStream qosPolicies, serviceDataResquest := requestId }
      modify (·.mapGhost (·.given (.service i)))
      return true
    else return false

/-- `rmw_create_service` from the slot on. -/
def createServiceBody (cfg : Config) (customNode : Nat)
    (typeSupport : TypeSupport ServiceTypeSupportCallbacks) (serviceName : CStr)
    (qosPolicies : RmwQosProfile) (requestId i : Nat) : Prog Bool := do
  if cfg.topicNameMaxLength < serviceName.length + 1 then return false
  else
    writeElement .service i fun p =>
      { p with serviceName := serviceName, ownerNode := some customNode, qos := qosPolicies }
    match typeSupport with
    | .undefined => return false
    | .nullData =>
      writeElement .service i fun p => { p with typeSupportCallbacks := none }
      return false
    | .callbacks members =>
      writeElement .service i fun p => { p with typeSupportCallbacks := some members }
      createServiceObject cfg customNode members serviceName qosPolicies requestId i

/-- `rmw_create_service`. -/
def rmwCreateService (cfg : Config) (node : Option Nat)
    (typeSupport : Option (TypeSupport ServiceTypeSupportCallbacks)) (serviceName : Option CStr)
    (qosPolicies : Option RmwQosProfile) (requestId : Nat) : Prog (Option Nat) := do
  match node, typeSupport, serviceName, qosPolicies with
  | some node, some typeSupport, some serviceName, some qosPolicies =>
    let handle := (← readElement .node node).rmwNode
    if isUxrceRmwIdentifierValid handle.implementationIdentifier = false ∨ serviceName = [] then
      return none
    else
      match ← acquire .service id with
      | none => return none
      | some i =>
        if ← createServiceBody cfg (deref handle.data) typeSupport serviceName qosPolicies
            requestId i then
          return some i
        else
          rmwUxrceFiniServiceMemory i
          return none
  | _, _, _, _ => return none

/-- `rmw_destroy_service`. The sessions run are those of the node given, not of the owner. -/
def rmwDestroyService (cfg : Config) (node service : Option Nat) : Prog RmwRet := do
  match ← destroyChecks .service node service with
  | none => return .error
  | some (customNode, custom) =>
    let customService ← readElement .service custom
    let context ← contextOf customNode
    let _ ← runDestruction cfg context (.cancelData customService.serviceId)
    let ret ← runDestruction cfg context (.deleteEntity customService.serviceId)
    rmwUxrceFiniServiceMemory (deref service)
    return if ret then .ok else .timeout

/-! ## Clients -/

/-- The requester of a client, and the request for its data. -/
def createClientObject (cfg : Config) (customNode : Nat) (members : ServiceTypeSupportCallbacks)
    (serviceName : CStr) (qosPolicies : RmwQosProfile) (requestId i : Nat) : Prog Bool := do
  let context ← contextOf customNode
  let id ← postIncrement context (·.idRequester) fun v c => { c with idRequester := v }
  writeElement .client i fun p => { p with clientId := ⟨id, .requester⟩ }
  let participant := (← readElement .node customNode).participantId
  match serviceTexts cfg ⟨id, .requester⟩ serviceName true members qosPolicies with
  | none => return false
  | some texts =>
    if ← runCreation cfg context ⟨id, .requester⟩ participant texts then
      writeElement .client i fun p =>
        { p with streamId := outputStream qosPolicies, clientDataRequest := requestId }
      modify (·.mapGhost (·.given (.client i)))
      return true
    else return false

/-- `rmw_create_client` from the slot on. -/
def createClientBody (cfg : Config) (customNode : Nat)
    (typeSupport : TypeSupport ServiceTypeSupportCallbacks) (serviceName : CStr)
    (qosPolicies : RmwQosProfile) (requestId i : Nat) : Prog Bool := do
  if cfg.topicNameMaxLength < serviceName.length + 1 then return false
  else
    writeElement .client i fun p =>
      { p with serviceName := serviceName, ownerNode := some customNode, qos := qosPolicies }
    match typeSupport with
    | .undefined => return false
    | .nullData =>
      writeElement .client i fun p => { p with typeSupportCallbacks := none }
      return false
    | .callbacks members =>
      writeElement .client i fun p => { p with typeSupportCallbacks := some members }
      createClientObject cfg customNode members serviceName qosPolicies requestId i

/-- `rmw_create_client`. -/
def rmwCreateClient (cfg : Config) (node : Option Nat)
    (typeSupport : Option (TypeSupport ServiceTypeSupportCallbacks)) (serviceName : Option CStr)
    (qosPolicies : Option RmwQosProfile) (requestId : Nat) : Prog (Option Nat) := do
  match node, typeSupport, serviceName, qosPolicies with
  | some node, some typeSupport, some serviceName, some qosPolicies =>
    let handle := (← readElement .node node).rmwNode
    if isUxrceRmwIdentifierValid handle.implementationIdentifier = false ∨ serviceName = [] then
      return none
    else
      match ← acquire .client id with
      | none => return none
      | some i =>
        if ← createClientBody cfg (deref handle.data) typeSupport serviceName qosPolicies
            requestId i then
          return some i
        else
          rmwUxrceFiniClientMemory i
          return none
  | _, _, _, _ => return none

/-- `rmw_destroy_client`. The sessions run are those of the node given, not of the owner. -/
def rmwDestroyClient (cfg : Config) (node client : Option Nat) : Prog RmwRet := do
  match ← destroyChecks .client node client with
  | none => return .error
  | some (customNode, custom) =>
    let customClient ← readElement .client custom
    let context ← contextOf customNode
    let _ ← runDestruction cfg context (.cancelData customClient.clientId)
    let ret ← runDestruction cfg context (.deleteEntity customClient.clientId)
    rmwUxrceFiniClientMemory (deref client)
    return if ret then .ok else .timeout

end RmwMicroxrcedds
