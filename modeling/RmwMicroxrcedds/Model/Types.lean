import RmwMicroxrcedds.Pool.Memory
import RmwMicroxrcedds.Base.Machine64

/-!
# `types.h`: the library's data

Pointers into a static array are indices, NULL is `none`. Strings are lists of characters, one
per byte. Sixteen-bit counters and ids are naturals taken modulo 65536 where they are stepped.
Every record starts out as zeroed static storage (`default`).
-/

namespace RmwMicroxrcedds
set_option autoImplicit false

/-- A C string without its terminator; `List.length` is `strlen`. -/
abbrev CStr := List Char

/-- The transport of the build: one of `RMW_UXRCE_TRANSPORT_SERIAL`, `_UDP`, `_TCP` and `_CUSTOM`. -/
inductive Transport where
  | serial | udp | tcp | custom
deriving DecidableEq

/-- The compile-time configuration (`config.h`). -/
structure Config where
  transport : Transport
  maxSessions : Nat
  maxNodes : Nat
  maxPublishers : Nat
  maxSubscriptions : Nat
  maxServices : Nat
  maxClients : Nat
  maxTopicsInternal : Nat
  maxHistory : Nat
  maxOptions : Nat
  maxWaitSets : Nat
  maxGuardCondition : Nat
  /-- `RMW_UXRCE_USE_REFS` -/
  useRefs : Bool
  /-- `RMW_UXRCE_GRAPH` -/
  graph : Bool
  entityCreationTimeout : Int
  entityDestroyTimeout : Int
  nodeNameMaxLength : Nat
  topicNameMaxLength : Nat
  typeNameMaxLength : Nat
  entityNamingBufferLength : Nat

inductive RmwRet where
  | ok | error | timeout | unsupported | invalidArgument | incorrectRmwImplementation
deriving DecidableEq, Inhabited

/-! ## Quality of service and time -/

/-- `rmw_time_t`. -/
structure RmwTime where
  sec : Nat
  nsec : Nat
deriving DecidableEq, Inhabited

/-- `rmw_time_total_nsec`: the whole duration in nanoseconds, saturated. -/
def rmwTimeTotalNsec (t : RmwTime) : Int :=
  min ((t.sec * 1000000000 + t.nsec : Nat) : Int) Machine64.int64Max

/-- `rmw_time_equal`. -/
def rmwTimeEqual (a b : RmwTime) : Bool := rmwTimeTotalNsec a == rmwTimeTotalNsec b

/-- `RMW_DURATION_INFINITE`. -/
def rmwDurationInfinite : RmwTime := ⟨9223372036, 854775807⟩

/-- `RMW_DURATION_UNSPECIFIED`. -/
def rmwDurationUnspecified : RmwTime := ⟨0, 0⟩

/-- `RMW_UXRCE_QOS_LIFESPAN_DEFAULT`. -/
def rmwUxrceQosLifespanDefault : RmwTime := ⟨30, 0⟩

inductive History where
  | systemDefault | keepLast | keepAll | unknown
deriving DecidableEq, Inhabited

inductive Reliability where
  | systemDefault | reliable | bestEffort | unknown
deriving DecidableEq, Inhabited

/-- The members of `rmw_qos_profile_t` that the modelled functions read. -/
structure RmwQosProfile where
  history : History
  depth : Nat
  reliability : Reliability
  lifespan : RmwTime
  avoidRosNamespaceConventions : Bool
deriving DecidableEq, Inhabited

/-! ## Client library types -/

inductive ObjectKind where
  | invalid | participant | topic | publisher | subscriber | datawriter | datareader
  | requester | replier
deriving DecidableEq, Inhabited

/-- `uxrObjectId`. -/
structure UxrObjectId where
  id : Nat
  type : ObjectKind
deriving DecidableEq, Inhabited

/-- The type of a `uxrStreamId`. -/
inductive UxrStreamType where
  | none | bestEffort | reliable
deriving DecidableEq, Inhabited

/-- `SampleIdentity`. -/
structure SampleIdentity where
  guidPrefix : Vector (BitVec 8) 12
  entityKey : Vector (BitVec 8) 3
  entityKind : BitVec 8
  high : BitVec 32
  low : BitVec 32
deriving DecidableEq, Inhabited

/-- `rmw_request_id_t`. -/
structure RmwRequestId where
  writerGuid : Vector (BitVec 8) 16
  sequenceNumber : BitVec 64
deriving DecidableEq, Inhabited

/-- `message_type_support_callbacks_t`, as far as names are concerned. -/
structure MessageTypeSupportCallbacks where
  messageNamespace : Option CStr
  messageName : CStr
deriving DecidableEq, Inhabited

/-- `service_type_support_callbacks_t`. -/
structure ServiceTypeSupportCallbacks where
  requestMembers : MessageTypeSupportCallbacks
  responseMembers : MessageTypeSupportCallbacks
deriving DecidableEq, Inhabited

/-- What `get_message_typesupport_handle` or `get_service_typesupport_handle` finds for the
argument of a create function: no handle, one without data, or the callbacks. -/
inductive TypeSupport (γ : Type) where
  | undefined
  | nullData
  | callbacks (c : γ)

/-! ## Pool elements -/

/-- `implementation_identifier`. -/
inductive Identifier where
  | eprosimaMicroxrcedds
  | foreign
deriving DecidableEq, Inhabited

/-- The part that `rmw_node_t`, `rmw_publisher_t` and the other handles share. -/
structure Handle where
  implementationIdentifier : Option Identifier
  data : Option Nat
deriving DecidableEq, Inhabited

/-- `rmw_context_impl_s`. `timeOffset` belongs to the `uxrSession` inside. -/
structure Session where
  timeOffset : Int
  creationStream : UxrStreamType
  destroyStream : UxrStreamType
  creationTimeout : Int
  destroyTimeout : Int
  idParticipant : Nat
  idTopic : Nat
  idPublisher : Nat
  idDatawriter : Nat
  idSubscriber : Nat
  idDatareader : Nat
  idRequester : Nat
  idReplier : Nat
  graphGuardCondition : Handle
  needToBeRan : Bool
deriving DecidableEq, Inhabited

/-- `rmw_graph_info_t`. -/
structure GraphInfo where
  initialized : Bool
  hasChanged : Bool
  participantId : UxrObjectId
  subscriberId : UxrObjectId
  topicId : UxrObjectId
  datareaderId : UxrObjectId
  microBuffer : List UInt8
  microBufferLength : Nat
deriving DecidableEq, Inhabited

/-- `rmw_uxrce_topic_t`. -/
structure Topic where
  topicId : UxrObjectId
  messageTypeSupportCallbacks : Option MessageTypeSupportCallbacks
  ownerNode : Option Nat
deriving DecidableEq, Inhabited

/-- `rmw_uxrce_node_t`. -/
structure Node where
  context : Option Nat
  participantId : UxrObjectId
  rmwNode : Handle
  nodeName : CStr
  nodeNamespace : CStr
deriving DecidableEq, Inhabited

/-- `rmw_uxrce_publisher_t`. -/
structure Publisher where
  publisherId : UxrObjectId
  datawriterId : UxrObjectId
  typeSupportCallbacks : Option MessageTypeSupportCallbacks
  topic : Option Nat
  qos : RmwQosProfile
  streamId : UxrStreamType
  ownerNode : Option Nat
  rmwPublisher : Handle
  topicName : CStr
deriving DecidableEq, Inhabited

/-- `rmw_uxrce_subscription_t`. -/
structure Subscription where
  subscriberId : UxrObjectId
  datareaderId : UxrObjectId
  typeSupportCallbacks : Option MessageTypeSupportCallbacks
  topic : Option Nat
  ownerNode : Option Nat
  qos : RmwQosProfile
  rmwSubscription : Handle
  topicName : CStr
deriving DecidableEq, Inhabited

/-- `rmw_uxrce_service_t`. -/
structure Service where
  serviceId : UxrObjectId
  typeSupportCallbacks : Option ServiceTypeSupportCallbacks
  serviceDataResquest : Nat
  qos : RmwQosProfile
  streamId : UxrStreamType
  ownerNode : Option Nat
  rmwService : Handle
  serviceName : CStr
deriving DecidableEq, Inhabited

/-- `rmw_uxrce_client_t`. -/
structure Client where
  clientId : UxrObjectId
  typeSupportCallbacks : Option ServiceTypeSupportCallbacks
  clientDataRequest : Nat
  qos : RmwQosProfile
  streamId : UxrStreamType
  ownerNode : Option Nat
  rmwClient : Handle
  serviceName : CStr
deriving DecidableEq, Inhabited

/-- `rmw_uxrce_guard_condition_t`. -/
structure GuardCondition where
  hasTriggered : Bool
  rmwGuardCondition : Handle
deriving DecidableEq, Inhabited

/-- `rmw_uxrce_entity_type_t`. -/
inductive EntityType where
  | unknown | node | topic | service | client | subscription | publisher
deriving DecidableEq, Inhabited

/-- The `void * owner` of a static buffer: the address of a pool element. -/
inductive Owner where
  | subscription (i : Nat)
  | service (i : Nat)
  | client (i : Nat)
deriving DecidableEq, Inhabited

/-- The element an owner address is cast to. -/
def Owner.index : Owner → Nat
  | .subscription i | .service i | .client i => i

/-- The union `related`: the member written last. -/
inductive Related where
  | replyId (id : BitVec 64)
  | sampleId (id : SampleIdentity)
deriving DecidableEq

instance : Inhabited Related := ⟨.replyId 0⟩

/-- `rmw_uxrce_static_input_buffer_t`. -/
structure StaticInputBuffer where
  buffer : List UInt8
  length : Nat
  owner : Option Owner
  timestamp : Int
  entityType : EntityType
  related : Related
deriving DecidableEq, Inhabited

end RmwMicroxrcedds
