import RmwMicroxrcedds.Model.System

/-!
# The names announced in the two creation modes

The binary requests carry the names that the `generate_*` functions print; the documents of the refs
mode have them printed into fixed texts by the `build_*_xml` functions. A document announces the names
of the binary mode when it is that text around them. The two agree exactly for the profiles that keep
the ROS namespace conventions: the documents leave the prefixes out for the others, and the binary
requests never look at the flag.
-/

namespace RmwMicroxrcedds
set_option autoImplicit false

/-- The four names of a service. -/
structure ServiceNames where
  requestTopic : CStr
  replyTopic : CStr
  requestType : CStr
  replyType : CStr
deriving DecidableEq

/-- The two names of a topic. -/
structure TopicNames where
  topic : CStr
  type : CStr
deriving DecidableEq

/-- The names in the request of a binary service or client creation. -/
def binaryServiceNames (cfg : Config) (serviceName : CStr) (members : ServiceTypeSupportCallbacks) :
    ServiceNames where
  requestTopic := (generateServiceTopics serviceName cfg.topicNameMaxLength).2.1
  replyTopic := (generateServiceTopics serviceName cfg.topicNameMaxLength).2.2
  requestType := (generateServiceTypes members cfg.typeNameMaxLength).2.1
  replyType := (generateServiceTypes members cfg.typeNameMaxLength).2.2

/-- The names in the request of a binary topic creation. -/
def binaryTopicNames (cfg : Config) (topicName : CStr) (members : MessageTypeSupportCallbacks) :
    TopicNames where
  topic := (generateTopicName topicName cfg.topicNameMaxLength).2
  type := (generateTypeName members cfg.typeNameMaxLength).2

/-! ## Documents around given names -/

/-- The document of a service, around its names. -/
def serviceDocument (serviceNameId serviceName : CStr) (requester : Bool) (names : ServiceNames) :
    CStr :=
  let role := if requester then "requester".toList else "replier".toList
  "<dds><".toList ++ role ++ " profile_name=\"".toList ++ serviceNameId ++ "\" service_name=\"".toList ++
    serviceName ++ "\" request_type=\"".toList ++ names.requestType ++ "\" reply_type=\"".toList ++
    names.replyType ++ "\"><request_topic_name>".toList ++ names.requestTopic ++
    "</request_topic_name><reply_topic_name>".toList ++ names.replyTopic ++
    "</reply_topic_name></".toList ++ role ++ "></dds>".toList

/-- The document of a topic, around its names. -/
def topicDocument (names : TopicNames) : CStr :=
  "<dds><topic><name>".toList ++ names.topic ++ "</name><dataType>".toList ++ names.type ++
    "</dataType></topic></dds>".toList

/-- The document of a datawriter or datareader, around its names. -/
def endpointDocument (element : CStr) (qosPolicies : RmwQosProfile) (names : TopicNames) : CStr :=
  let format := endpointFormat element
  let kind := if qosPolicies.reliability = .bestEffort then "BEST_EFFORT".toList else "RELIABLE".toList
  format.1 ++ kind ++ format.2.1 ++ names.topic ++ format.2.2.1 ++ names.type ++ format.2.2.2

section

variable {p q r t u v w a b c d a' b' c' d' : CStr}

theorem length_around_two (h : p ++ a ++ q ++ b ++ r = p ++ a' ++ q ++ b' ++ r) :
    a.length + b.length = a'.length + b'.length := by
  have lengths := congrArg List.length h
  simp only [List.length_append] at lengths
  omega

theorem length_around_four (h : p ++ a ++ q ++ b ++ r ++ c ++ t ++ d ++ u ++ v ++ w =
    p ++ a' ++ q ++ b' ++ r ++ c' ++ t ++ d' ++ u ++ v ++ w) :
    a.length + b.length + c.length + d.length = a'.length + b'.length + c'.length + d'.length := by
  have lengths := congrArg List.length h
  simp only [List.length_append] at lengths
  omega

end

theorem serviceDocument_length {id serviceName : CStr} {requester : Bool} {a b : ServiceNames}
    (h : serviceDocument id serviceName requester a = serviceDocument id serviceName requester b) :
    a.requestType.length + a.replyType.length + a.requestTopic.length + a.replyTopic.length =
      b.requestType.length + b.replyType.length + b.requestTopic.length + b.replyTopic.length :=
  length_around_four h

theorem topicDocument_length {a b : TopicNames} (h : topicDocument a = topicDocument b) :
    a.topic.length + a.type.length = b.topic.length + b.type.length :=
  length_around_two h

theorem endpointDocument_length {element : CStr} {qosPolicies : RmwQosProfile} {a b : TopicNames}
    (h : endpointDocument element qosPolicies a = endpointDocument element qosPolicies b) :
    a.topic.length + a.type.length = b.topic.length + b.type.length :=
  length_around_two h

/-! ## What the builders write -/

/-- A bounded write of a text that fits. -/
theorem snprintf_fits {size : Nat} {text : CStr} (fits : text.length < size) :
    snprintf size text = (text, text.length) := by
  rw [snprintf, List.take_of_length_le (by omega)]

/-- A bounded write that returns less than the size of the buffer leaves the whole text. -/
theorem snprintf_whole {size : Nat} {text : CStr} (whole : (snprintf size text).2 < size) :
    (snprintf size text).1 = text := congrArg Prod.fst (snprintf_fits whole)

theorem snprintf_eq_iff {size : Nat} {text : CStr} (pos : 0 < size ∨ 0 < text.length) :
    (snprintf size text).1 = text ↔ text.length < size := by
  constructor
  · intro whole
    have length := congrArg List.length whole
    rw [snprintf, List.length_take] at length
    omega
  · intro fits
    exact snprintf_whole fits

section Builders

variable {cfg : Config} {qosPolicies : RmwQosProfile} {buffer : CStr} {size : Nat}

/-- The names of a service whose profile has the given flag. -/
def documentServiceNames (cfg : Config) (serviceName : CStr) (members : ServiceTypeSupportCallbacks)
    (avoid : Bool) : ServiceNames :=
  let names := binaryServiceNames cfg serviceName members
  if avoid then { names with requestTopic := serviceName, replyTopic := serviceName } else names

/-- The names of a topic whose profile has the given flag. -/
def documentTopicNames (cfg : Config) (topicName : CStr) (members : MessageTypeSupportCallbacks)
    (avoid : Bool) : TopicNames :=
  let names := binaryTopicNames cfg topicName members
  if avoid then { names with topic := topicName } else names

section Service

variable {serviceName id : CStr} {members : ServiceTypeSupportCallbacks} {requester : Bool}

/-- The topic names that the binary mode accepts. -/
theorem generateServiceTopics_fits
    (fits : (generateServiceTopics serviceName cfg.topicNameMaxLength).1 = true) :
    (generateServiceTopics serviceName cfg.topicNameMaxLength).2 =
        (rosRequestPrefix ++ serviceName ++ rosRequestSubfix,
          rosReplyPrefix ++ serviceName ++ rosReplySubfix) ∧
      serviceName.length + 9 < cfg.topicNameMaxLength := by
  simp only [generateServiceTopics, snprintf, rosRequestPrefix, rosReplyPrefix, rosRequestSubfix,
    rosReplySubfix, decide_eq_true_eq, List.length_append, List.length_cons, List.length_nil] at fits
  constructor
  · rw [generateServiceTopics, snprintf_fits, snprintf_fits]
    · simp only [rosReplyPrefix, rosReplySubfix, List.length_append, List.length_cons, List.length_nil]
      omega
    · simp only [rosRequestPrefix, rosRequestSubfix, List.length_append, List.length_cons,
        List.length_nil]
      omega
  · omega

/-- The document of a service that succeeds in the binary mode too. -/
theorem buildServiceXml_document
    (topics : (generateServiceTopics serviceName cfg.topicNameMaxLength).1 = true)
    (whole : (buildServiceXml cfg id serviceName requester members qosPolicies buffer size).1 < size) :
    (buildServiceXml cfg id serviceName requester members qosPolicies buffer size).2 =
      serviceDocument id serviceName requester
        (documentServiceNames cfg serviceName members qosPolicies.avoidRosNamespaceConventions) := by
  obtain ⟨names, short⟩ := generateServiceTopics_fits topics
  unfold buildServiceXml at whole ⊢
  unfold serviceDocument documentServiceNames binaryServiceNames
  rw [names]
  dsimp only at whole ⊢
  cases avoid : qosPolicies.avoidRosNamespaceConventions with
  | true =>
    have req : serviceName.length < cfg.topicNameMaxLength + 1 + 3 + 1 + 8 := by omega
    have res : serviceName.length < cfg.topicNameMaxLength + 1 + 3 + 1 + 6 := by omega
    simp only [avoid, if_true, snprintf_fits req, snprintf_fits res, if_neg (Nat.not_le.2 req)]
      at whole ⊢
    exact snprintf_whole whole
  | false =>
    have req : (rosRequestPrefix ++ serviceName ++ rosRequestSubfix).length <
        cfg.topicNameMaxLength + 1 + 3 + 1 + 8 := by
      simp only [List.length_append, rosRequestPrefix, rosRequestSubfix, List.length_cons,
        List.length_nil]
      omega
    have res : (rosReplyPrefix ++ serviceName ++ rosReplySubfix).length <
        cfg.topicNameMaxLength + 1 + 3 + 1 + 6 := by
      simp only [List.length_append, rosReplyPrefix, rosReplySubfix, List.length_cons, List.length_nil]
      omega
    simp only [avoid, Bool.false_eq_true, if_false, snprintf_fits req, snprintf_fits res,
      if_neg (Nat.not_le.2 req), if_neg (Nat.not_le.2 res)] at whole ⊢
    exact snprintf_whole whole

end Service

section Topic

variable {topicName : CStr} {members : MessageTypeSupportCallbacks}

/-- The topic name that the binary mode accepts. -/
theorem generateTopicName_fits (fits : (generateTopicName topicName cfg.topicNameMaxLength).1 = true) :
    (generateTopicName topicName cfg.topicNameMaxLength).2 = rosTopicPrefix ++ topicName ∧
      topicName.length + 2 < cfg.topicNameMaxLength := by
  have length : topicName.length + 2 < cfg.topicNameMaxLength := by
    simp only [generateTopicName, snprintf, rosTopicPrefix, decide_eq_true_eq, List.length_append,
      List.length_cons, List.length_nil] at fits
    omega
  refine ⟨?_, length⟩
  rw [generateTopicName, snprintf_fits]
  simp only [rosTopicPrefix, List.length_append, List.length_cons, List.length_nil]
  omega

/-- The names that the documents print. -/
theorem documentTopicNames_eq (members : MessageTypeSupportCallbacks)
    (fits : (generateTopicName topicName cfg.topicNameMaxLength).1 = true) :
    documentTopicNames cfg topicName members qosPolicies.avoidRosNamespaceConventions =
      ⟨fullTopicName cfg topicName qosPolicies, (generateTypeName members cfg.typeNameMaxLength).2⟩ := by
  obtain ⟨name, short⟩ := generateTopicName_fits fits
  rw [fullTopicName, documentTopicNames, binaryTopicNames, name]
  cases qosPolicies.avoidRosNamespaceConventions with
  | true =>
    have room : topicName.length < cfg.topicNameMaxLength + 1 + 3 := by omega
    exact congrArg (TopicNames.mk · _) (congrArg Prod.fst (snprintf_fits room)).symm
  | false =>
    have room : (rosTopicPrefix ++ topicName).length < cfg.topicNameMaxLength + 1 + 3 := by
      simp only [rosTopicPrefix, List.length_append, List.length_cons, List.length_nil]
      omega
    exact congrArg (TopicNames.mk · _) (congrArg Prod.fst (snprintf_fits room)).symm

/-- The document of a topic that succeeds in the binary mode too. -/
theorem buildTopicXml_document
    (topic : (generateTopicName topicName cfg.topicNameMaxLength).1 = true)
    (type : (generateTypeName members cfg.typeNameMaxLength).1 = true)
    (whole : (buildTopicXml cfg topicName members qosPolicies buffer size).1 < size) :
    (buildTopicXml cfg topicName members qosPolicies buffer size).2 = topicDocument
      (documentTopicNames cfg topicName members qosPolicies.avoidRosNamespaceConventions) := by
  have short := (generateTopicName_fits topic).2
  have accepted : topicName.length ≤ cfg.topicNameMaxLength ∧
      (generateTypeName members cfg.typeNameMaxLength).1 = true :=
    ⟨Nat.le_trans (Nat.le_add_right _ 2) (Nat.le_of_lt short), type⟩
  rw [documentTopicNames_eq members topic]
  unfold buildTopicXml at whole ⊢
  dsimp only at whole ⊢
  rw [if_pos accepted] at whole ⊢
  exact snprintf_whole whole

/-- The document of a datawriter or datareader of such a topic. -/
theorem buildXml_document (element : CStr)
    (topic : (generateTopicName topicName cfg.topicNameMaxLength).1 = true)
    (type : (generateTypeName members cfg.typeNameMaxLength).1 = true)
    (whole : (buildXml cfg (endpointFormat element) topicName members qosPolicies buffer size).1 < size) :
    (buildXml cfg (endpointFormat element) topicName members qosPolicies buffer size).2 =
      endpointDocument element qosPolicies
        (documentTopicNames cfg topicName members qosPolicies.avoidRosNamespaceConventions) := by
  rw [documentTopicNames_eq members topic]
  unfold buildXml at whole ⊢
  dsimp only at whole ⊢
  rw [if_pos type] at whole ⊢
  exact snprintf_whole whole

end Topic

end Builders

/-! ## Agreement -/

/-- The document of a service holds the names of the binary mode. -/
def ServiceAgrees (cfg : Config) (serviceName : CStr) (members : ServiceTypeSupportCallbacks)
    (qosPolicies : RmwQosProfile) : Prop :=
  ∀ id requester buffer size,
    (buildServiceXml cfg id serviceName requester members qosPolicies buffer size).1 < size →
    (buildServiceXml cfg id serviceName requester members qosPolicies buffer size).2 =
      serviceDocument id serviceName requester (binaryServiceNames cfg serviceName members)

/-- The documents of a topic and its endpoints hold the names of the binary mode. -/
structure TopicAgrees (cfg : Config) (topicName : CStr) (members : MessageTypeSupportCallbacks)
    (qosPolicies : RmwQosProfile) : Prop where
  topic : ∀ buffer size, (buildTopicXml cfg topicName members qosPolicies buffer size).1 < size →
    (buildTopicXml cfg topicName members qosPolicies buffer size).2 =
      topicDocument (binaryTopicNames cfg topicName members)
  datawriter : ∀ buffer size, (buildDatawriterXml cfg topicName members qosPolicies buffer size).1 < size →
    (buildDatawriterXml cfg topicName members qosPolicies buffer size).2 =
      endpointDocument "data_writer".toList qosPolicies (binaryTopicNames cfg topicName members)
  datareader : ∀ buffer size, (buildDatareaderXml cfg topicName members qosPolicies buffer size).1 < size →
    (buildDatareaderXml cfg topicName members qosPolicies buffer size).2 =
      endpointDocument "data_reader".toList qosPolicies (binaryTopicNames cfg topicName members)

section Agreement

variable {cfg : Config} {qosPolicies : RmwQosProfile} {buffer : CStr}

/-- Some buffer holds the whole of a text. -/
theorem snprintf_size (text : CStr) : ∃ size, (snprintf size text).2 < size :=
  ⟨text.length + 1, Nat.lt_succ_self _⟩

/-- Some buffer holds the whole document of a service. -/
theorem buildServiceXml_size (id serviceName : CStr) (requester : Bool)
    (members : ServiceTypeSupportCallbacks) : ∃ size,
    (buildServiceXml cfg id serviceName requester members qosPolicies buffer size).1 < size := by
  unfold buildServiceXml
  dsimp only
  generalize (if qosPolicies.avoidRosNamespaceConventions = true then (serviceName, serviceName)
    else (rosRequestPrefix ++ serviceName ++ rosRequestSubfix,
      rosReplyPrefix ++ serviceName ++ rosReplySubfix)) = texts
  generalize (if qosPolicies.avoidRosNamespaceConventions = true then
    cfg.topicNameMaxLength + 1 + 3 + 1 + 8 else cfg.topicNameMaxLength + 1 + 3 + 1 + 6) = bound
  split
  · exact ⟨1, Nat.one_pos⟩
  · split
    · exact ⟨1, Nat.one_pos⟩
    · dsimp only
      exact snprintf_size _

/-- Some buffer holds the whole document of a topic. -/
theorem buildTopicXml_size (topicName : CStr) (members : MessageTypeSupportCallbacks) : ∃ size,
    (buildTopicXml cfg topicName members qosPolicies buffer size).1 < size := by
  unfold buildTopicXml
  dsimp only
  split
  · exact snprintf_size _
  · exact ⟨1, Nat.one_pos⟩

theorem serviceAgrees_iff {serviceName : CStr} {members : ServiceTypeSupportCallbacks}
    (topics : (generateServiceTopics serviceName cfg.topicNameMaxLength).1 = true) :
    ServiceAgrees cfg serviceName members qosPolicies ↔
      qosPolicies.avoidRosNamespaceConventions = false := by
  constructor
  · intro agrees
    by_contra avoid
    rw [Bool.not_eq_false] at avoid
    obtain ⟨size, whole⟩ :
        ∃ size, (buildServiceXml cfg [] serviceName true members qosPolicies [] size).1 < size :=
      buildServiceXml_size ..
    have document := buildServiceXml_document topics whole
    rw [agrees _ _ _ _ whole, avoid] at document
    have lengths := serviceDocument_length document
    rw [documentServiceNames, binaryServiceNames, (generateServiceTopics_fits topics).1] at lengths
    simp only [rosRequestPrefix, rosReplyPrefix, rosRequestSubfix, rosReplySubfix, if_true,
      List.length_append, List.length_cons, List.length_nil] at lengths
    omega
  · intro keep id requester buffer size whole
    rw [buildServiceXml_document topics whole, keep]
    rfl

theorem topicAgrees_iff {topicName : CStr} {members : MessageTypeSupportCallbacks}
    (topic : (generateTopicName topicName cfg.topicNameMaxLength).1 = true)
    (type : (generateTypeName members cfg.typeNameMaxLength).1 = true) :
    TopicAgrees cfg topicName members qosPolicies ↔
      qosPolicies.avoidRosNamespaceConventions = false := by
  constructor
  · intro agrees
    by_contra avoid
    rw [Bool.not_eq_false] at avoid
    obtain ⟨size, whole⟩ :
        ∃ size, (buildTopicXml cfg topicName members qosPolicies [] size).1 < size :=
      buildTopicXml_size ..
    have document := buildTopicXml_document topic type whole
    rw [agrees.topic _ _ whole, avoid] at document
    have lengths := topicDocument_length document
    rw [documentTopicNames, binaryTopicNames, (generateTopicName_fits topic).1] at lengths
    simp only [rosTopicPrefix, if_true, List.length_append, List.length_cons, List.length_nil] at lengths
    omega
  · intro keep
    have names : binaryTopicNames cfg topicName members =
        documentTopicNames cfg topicName members qosPolicies.avoidRosNamespaceConventions := by
      rw [keep]
      rfl
    constructor
    · intro buffer size whole
      rw [names]
      exact buildTopicXml_document topic type whole
    · intro buffer size whole
      rw [names]
      exact buildXml_document _ topic type whole
    · intro buffer size whole
      rw [names]
      exact buildXml_document _ topic type whole

end Agreement

/-- **The two creation modes announce the same names** exactly for the profiles that keep the ROS
namespace conventions. -/
theorem announced_names_agree (cfg : Config) (qosPolicies : RmwQosProfile) :
    (∀ serviceName members, (generateServiceTopics serviceName cfg.topicNameMaxLength).1 = true →
      (generateServiceTypes members cfg.typeNameMaxLength).1 = true →
      (ServiceAgrees cfg serviceName members qosPolicies ↔
        qosPolicies.avoidRosNamespaceConventions = false)) ∧
    ∀ topicName members, (generateTopicName topicName cfg.topicNameMaxLength).1 = true →
      (generateTypeName members cfg.typeNameMaxLength).1 = true →
      (TopicAgrees cfg topicName members qosPolicies ↔
        qosPolicies.avoidRosNamespaceConventions = false) :=
  ⟨fun _ _ topics _ => serviceAgrees_iff topics, fun _ _ topic type => topicAgrees_iff topic type⟩

/-- A profile that keeps the conventions. -/
theorem announced_names_agree_kept :
    ServiceAgrees Small.config ['s'] ⟨⟨none, ['q']⟩, ⟨none, ['r']⟩⟩ (Small.profile 1 ⟨0, 0⟩) ∧
      TopicAgrees Small.config ['t'] ⟨none, ['m']⟩ (Small.profile 1 ⟨0, 0⟩) :=
  have agree := announced_names_agree Small.config (Small.profile 1 ⟨0, 0⟩)
  ⟨(agree.1 _ _ (by decide) (by decide)).2 rfl, (agree.2 _ _ (by decide) (by decide)).2 rfl⟩

/-- A profile that avoids them: the documents leave out the prefixes that the binary requests put in
front of the same names. -/
theorem avoided_prefix_is_announced :
    let qosPolicies := { Small.profile 1 ⟨0, 0⟩ with avoidRosNamespaceConventions := true }
    ¬ ServiceAgrees Small.config ['s'] ⟨⟨none, ['q']⟩, ⟨none, ['r']⟩⟩ qosPolicies ∧
      ¬ TopicAgrees Small.config ['t'] ⟨none, ['m']⟩ qosPolicies := by
  constructor
  · rw [serviceAgrees_iff (by decide)]
    decide
  · rw [topicAgrees_iff (by decide) (by decide)]
    decide

end RmwMicroxrcedds
