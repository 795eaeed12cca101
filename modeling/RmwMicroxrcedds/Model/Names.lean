import RmwMicroxrcedds.Model.Types

/-!
# `utils.c`: names and creation documents

A bounded write is `snprintf`: it leaves the text, cut to the buffer, and returns the length the
text would have had. Functions that fill a caller's buffer return what they return in C together
with the text the buffer holds.
-/

namespace RmwMicroxrcedds
set_option autoImplicit false

/-- `snprintf(buffer, size, "%s", text)`: the text left in the buffer and the value returned. -/
def snprintf (size : Nat) (text : CStr) : CStr × Nat := (text.take (size - 1), text.length)

def rosTopicPrefix : CStr := ['r', 't']
def rosRequestPrefix : CStr := ['r', 'q']
def rosReplyPrefix : CStr := ['r', 'r']
def rosRequestSubfix : CStr := ['R', 'e', 'q', 'u', 'e', 's', 't']
def rosReplySubfix : CStr := ['R', 'e', 'p', 'l', 'y']

/-- The number the agent knows an object kind by. -/
def ObjectKind.code : ObjectKind → Nat
  | .invalid => 0
  | .participant => 1
  | .topic => 2
  | .publisher => 3
  | .subscriber => 4
  | .datawriter => 5
  | .datareader => 6
  | .requester => 7
  | .replier => 8

/-- The decimal text of `%hu` and `%hi`. -/
def decimal (n : Nat) : CStr := Nat.toDigits 10 n

/-- `generate_name`. -/
def generateName (id : UxrObjectId) (bufferSize : Nat) : Nat × CStr :=
  let (name, ret) := snprintf bufferSize (decimal id.id ++ ['_'] ++ decimal id.type.code)
  (ret, name)

/-- The text `generate_type_name` prints. -/
def typeNameText (members : MessageTypeSupportCallbacks) : CStr :=
  (match members.messageNamespace with
    | some ns => ns ++ [':', ':']
    | none => []) ++ ['d', 'd', 's', '_', ':', ':'] ++ members.messageName ++ ['_']

/-- `generate_type_name`. -/
def generateTypeName (members : MessageTypeSupportCallbacks) (bufferSize : Nat) : Bool × CStr :=
  let (typeName, ret) := snprintf bufferSize (typeNameText members)
  (decide (ret < bufferSize), typeName)

/-- `generate_topic_name`. -/
def generateTopicName (topicName : CStr) (fullTopicNameSize : Nat) : Bool × CStr :=
  let (fullTopicName, ret) := snprintf fullTopicNameSize (rosTopicPrefix ++ topicName)
  (decide (ret < fullTopicNameSize), fullTopicName)

/-- `generate_service_topics`. -/
def generateServiceTopics (serviceName : CStr) (bufferSize : Nat) : Bool × CStr × CStr :=
  let (requestTopic, retReq) :=
    snprintf bufferSize (rosRequestPrefix ++ serviceName ++ rosRequestSubfix)
  let (replyTopic, retRep) := snprintf bufferSize (rosReplyPrefix ++ serviceName ++ rosReplySubfix)
  (decide (retReq < bufferSize ∧ retRep < bufferSize), requestTopic, replyTopic)

/-- `generate_service_types`. -/
def generateServiceTypes (members : ServiceTypeSupportCallbacks) (bufferSize : Nat) :
    Bool × CStr × CStr :=
  let (retReq, requestType) := generateTypeName members.requestMembers bufferSize
  let (retRep, replyType) := generateTypeName members.responseMembers bufferSize
  (retReq && retRep, requestType, replyType)

/-- The profile builders of the refs mode: the topic name without its first character and a
suffix. -/
def buildProfile (suffix topicName : CStr) (bufferSize : Nat) : Bool × CStr :=
  let (profileName, written) := snprintf bufferSize (topicName.drop 1 ++ suffix)
  (decide (0 < written ∧ written < bufferSize), profileName)

/-- `build_topic_profile`. -/
def buildTopicProfile : CStr → Nat → Bool × CStr := buildProfile "__t".toList

/-- `build_datawriter_profile`. -/
def buildDatawriterProfile : CStr → Nat → Bool × CStr := buildProfile "__dw".toList

/-- `build_datareader_profile`. -/
def buildDatareaderProfile : CStr → Nat → Bool × CStr := buildProfile "__dr".toList

/-- `build_participant_profile`: the buffer must hold `"participant_profile"` with its
terminator. -/
def buildParticipantProfile (bufferSize : Nat) : Bool × CStr :=
  if 20 ≤ bufferSize then (true, "participant_profile".toList) else (false, [])

/-- `build_participant_xml`. -/
def buildParticipantXml (participantName : CStr) (bufferSize : Nat) : Nat × CStr :=
  let (xml, ret) := snprintf bufferSize ("<dds><participant><rtps><name>".toList ++ participantName ++
    "</name></rtps></participant></dds>".toList)
  (ret, xml)

/-- `build_service_xml`, into a buffer with the given text; a refusal leaves it. The truncation check on the document can never fire (a value cannot be
negative and at least the buffer size), so the length is returned as it is. -/
def buildServiceXml (cfg : Config) (serviceNameId serviceName : CStr) (requester : Bool)
    (members : ServiceTypeSupportCallbacks) (qosPolicies : RmwQosProfile) (buffer : CStr) (bufferSize : Nat) :
    Nat × CStr :=
  let (_, reqTypeNameBuffer) := generateTypeName members.requestMembers cfg.typeNameMaxLength
  let (_, resTypeNameBuffer) := generateTypeName members.responseMembers cfg.typeNameMaxLength
  let reqSize := cfg.topicNameMaxLength + 1 + 3 + 1 + 8
  let resSize := cfg.topicNameMaxLength + 1 + 3 + 1 + 6
  let (reqText, resText) :=
    if qosPolicies.avoidRosNamespaceConventions then (serviceName, serviceName)
    else (rosRequestPrefix ++ serviceName ++ rosRequestSubfix,
      rosReplyPrefix ++ serviceName ++ rosReplySubfix)
  let (reqFullTopicName, retReq) := snprintf reqSize reqText
  let (resFullTopicName, retRes) := snprintf resSize resText
  if reqSize ≤ retReq then (0, buffer)
  else if (if qosPolicies.avoidRosNamespaceConventions then reqSize else resSize) ≤ retRes then
    (0, buffer)
  else
    let role := if requester then "requester".toList else "replier".toList
    let (xml, ret) := snprintf bufferSize ("<dds><".toList ++ role ++ " profile_name=\"".toList ++
      serviceNameId ++ "\" service_name=\"".toList ++ serviceName ++ "\" request_type=\"".toList ++
      reqTypeNameBuffer ++ "\" reply_type=\"".toList ++ resTypeNameBuffer ++
      "\"><request_topic_name>".toList ++ reqFullTopicName ++
      "</request_topic_name><reply_topic_name>".toList ++ resFullTopicName ++
      "</reply_topic_name></".toList ++ role ++ "></dds>".toList)
    (ret, xml)

/-- The `full_topic_name` the document builders print into a buffer of their own. -/
def fullTopicName (cfg : Config) (topicName : CStr) (qosPolicies : RmwQosProfile) : CStr :=
  (snprintf (cfg.topicNameMaxLength + 1 + 3)
    (if qosPolicies.avoidRosNamespaceConventions then topicName
      else rosTopicPrefix ++ topicName)).1

/-- `build_topic_xml`, which leaves the text in the buffer where it refuses. -/
def buildTopicXml (cfg : Config) (topicName : CStr) (members : MessageTypeSupportCallbacks)
    (qosPolicies : RmwQosProfile) (buffer : CStr) (bufferSize : Nat) : Nat × CStr :=
  let (fits, typeNameBuffer) := generateTypeName members cfg.typeNameMaxLength
  if topicName.length ≤ cfg.topicNameMaxLength ∧ fits then
    let (xml, ret) := snprintf bufferSize ("<dds><topic><name>".toList ++
      fullTopicName cfg topicName qosPolicies ++ "</name><dataType>".toList ++ typeNameBuffer ++
      "</dataType></topic></dds>".toList)
    (ret, xml)
  else (0, buffer)

/-- `build_xml`, for a format given by the texts around its three arguments; it, too, leaves the text in the
buffer where it refuses. -/
def buildXml (cfg : Config) (format : CStr × CStr × CStr × CStr) (topicName : CStr)
    (members : MessageTypeSupportCallbacks) (qosPolicies : RmwQosProfile) (buffer : CStr) (bufferSize : Nat) :
    Nat × CStr :=
  let (fits, typeNameBuffer) := generateTypeName members cfg.typeNameMaxLength
  if fits then
    let kind := if qosPolicies.reliability = .bestEffort then "BEST_EFFORT".toList
      else "RELIABLE".toList
    let (xml, ret) := snprintf bufferSize (format.1 ++ kind ++ format.2.1 ++
      fullTopicName cfg topicName qosPolicies ++ format.2.2.1 ++ typeNameBuffer ++ format.2.2.2)
    (ret, xml)
  else (0, buffer)

/-- The format of `build_datawriter_xml` and `build_datareader_xml`, which differ in the element
name. -/
def endpointFormat (element : CStr) : CStr × CStr × CStr × CStr :=
  ("<dds><".toList ++ element ++
      "><historyMemoryPolicy>PREALLOCATED_WITH_REALLOC</historyMemoryPolicy><qos><reliability><kind>".toList,
    "</kind></reliability></qos><topic><kind>NO_KEY</kind><name>".toList,
    "</name><dataType>".toList,
    "</dataType><historyQos><kind>KEEP_ALL</kind></historyQos></topic></".toList ++ element ++
      "></dds>".toList)

/-- `build_datawriter_xml`. -/
def buildDatawriterXml (cfg : Config) : CStr → MessageTypeSupportCallbacks → RmwQosProfile →
    CStr → Nat → Nat × CStr := buildXml cfg (endpointFormat "data_writer".toList)

/-- `build_datareader_xml`. -/
def buildDatareaderXml (cfg : Config) : CStr → MessageTypeSupportCallbacks → RmwQosProfile →
    CStr → Nat → Nat × CStr := buildXml cfg (endpointFormat "data_reader".toList)

end RmwMicroxrcedds
