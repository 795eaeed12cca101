import RmwMicroxrcedds.Spec.Naming

/-!
# Documents that do not fit

The builders of the creation documents print the names into buffers of their own and the document
into the buffer of the caller. A document is meant to be handed out only when nothing was cut. The
checks that would see to it test for a length that is negative and at least the size of the buffer, and
those of the service builder look away from the type names.
-/

namespace RmwMicroxrcedds
set_option autoImplicit false

variable {cfg : Config} {qosPolicies : RmwQosProfile} {size : Nat}

/-- A positive result stands for the whole document. -/
def Complete (document : CStr) (bufferSize : Nat) (built : Nat × CStr) : Prop :=
  0 < built.1 → built.1 < bufferSize ∧ built.2 = document ∧ built.1 = document.length

instance (document : CStr) (bufferSize : Nat) (built : Nat × CStr) :
    Decidable (Complete document bufferSize built) := inferInstanceAs (Decidable (_ → _))

/-- The names of a service, whole. -/
def wholeServiceNames (serviceName : CStr) (members : ServiceTypeSupportCallbacks)
    (qosPolicies : RmwQosProfile) : ServiceNames where
  requestTopic := if qosPolicies.avoidRosNamespaceConventions then serviceName
    else rosRequestPrefix ++ serviceName ++ rosRequestSubfix
  replyTopic := if qosPolicies.avoidRosNamespaceConventions then serviceName
    else rosReplyPrefix ++ serviceName ++ rosReplySubfix
  requestType := typeNameText members.requestMembers
  replyType := typeNameText members.responseMembers

/-- The names of a topic, whole. -/
def wholeTopicNames (topicName : CStr) (members : MessageTypeSupportCallbacks)
    (qosPolicies : RmwQosProfile) : TopicNames where
  topic := if qosPolicies.avoidRosNamespaceConventions then topicName else rosTopicPrefix ++ topicName
  type := typeNameText members

/-- The document of a participant. -/
def participantDocument (participantName : CStr) : CStr :=
  "<dds><participant><rtps><name>".toList ++ participantName ++
    "</name></rtps></participant></dds>".toList

/-! ## Cut texts -/

theorem snprintf_snd (size : Nat) (text : CStr) : (snprintf size text).2 = text.length := rfl

theorem snprintf_length_le (size : Nat) (text : CStr) : (snprintf size text).1.length ≤ text.length :=
  List.length_take_le' ..

/-- What is printed is as long as the text only if it is the text. -/
theorem snprintf_eq_of_length {size : Nat} {text : CStr}
    (h : (snprintf size text).1.length = text.length) : (snprintf size text).1 = text :=
  (List.take_prefix _ _).eq_of_length h

/-- What a builder that prints `text` for `document` has to have done. -/
theorem complete_iff {document text : CStr} (pos : 0 < text.length) :
    Complete document size (text.length, text.take (size - 1)) ↔
      text = document ∧ document.length < size := by
  constructor
  · intro complete
    obtain ⟨fits, whole, -⟩ := complete pos
    have same : (snprintf size text).1 = text := snprintf_whole fits
    have e : text = document := same.symm.trans whole
    exact ⟨e, e ▸ fits⟩
  · rintro ⟨rfl, fits⟩ -
    exact ⟨fits, snprintf_whole fits, rfl⟩

theorem complete_zero (document rest : CStr) (size : Nat) : Complete document size (0, rest) :=
  fun h => absurd h (Nat.lt_irrefl 0)

theorem typeNameText_pos (members : MessageTypeSupportCallbacks) : 0 < (typeNameText members).length := by
  rw [typeNameText, List.length_append]
  exact Nat.add_pos_right _ Nat.one_pos

/-! ## Participants -/

theorem participant_complete_iff (participantName : CStr) (size : Nat) :
    Complete (participantDocument participantName) size (buildParticipantXml participantName size) ↔
      (participantDocument participantName).length < size := by
  have pos : 0 < (participantDocument participantName).length := by
    unfold participantDocument
    simp only [List.length_append, String.length_toList]
    exact Nat.add_pos_right _ (by decide +kernel)
  have built : buildParticipantXml participantName size =
      ((participantDocument participantName).length, (participantDocument participantName).take (size - 1)) :=
    rfl
  rw [built]
  exact (complete_iff pos).trans (and_iff_right rfl)

/-! ## Topics -/

section Topic

variable {topicName : CStr} {members : MessageTypeSupportCallbacks}

/-- The full topic name fits the buffer of the topic, datawriter and datareader builders. -/
def TopicFits (cfg : Config) (topicName : CStr) (qosPolicies : RmwQosProfile) : Prop :=
  topicName.length + (if qosPolicies.avoidRosNamespaceConventions then 0 else 2) <
    cfg.topicNameMaxLength + 4

/-- The type name fits the buffer of a builder. -/
def TypeFits (cfg : Config) (members : MessageTypeSupportCallbacks) : Prop :=
  (typeNameText members).length < cfg.typeNameMaxLength

instance : Decidable (TopicFits cfg topicName qosPolicies) := inferInstanceAs (Decidable (_ < _))

instance : Decidable (TypeFits cfg members) := inferInstanceAs (Decidable (_ < _))

/-- What the builders of a topic and its endpoints print for the names. -/
def printedTopicNames (cfg : Config) (topicName : CStr) (members : MessageTypeSupportCallbacks)
    (qosPolicies : RmwQosProfile) : TopicNames where
  topic := fullTopicName cfg topicName qosPolicies
  type := (generateTypeName members cfg.typeNameMaxLength).2

theorem wholeTopicNames_topic_length (topicName : CStr) (members : MessageTypeSupportCallbacks)
    (qosPolicies : RmwQosProfile) :
    (wholeTopicNames topicName members qosPolicies).topic.length =
      topicName.length + (if qosPolicies.avoidRosNamespaceConventions then 0 else 2) := by
  unfold wholeTopicNames
  dsimp only
  split
  · rfl
  · rw [List.length_append, Nat.add_comm]
    rfl

theorem printedTopicNames_eq_iff (cfg : Config) (topicName : CStr) (members : MessageTypeSupportCallbacks)
    (qosPolicies : RmwQosProfile) :
    printedTopicNames cfg topicName members qosPolicies = wholeTopicNames topicName members qosPolicies ↔
      TopicFits cfg topicName qosPolicies ∧ TypeFits cfg members := by
  have topic := @snprintf_eq_iff (cfg.topicNameMaxLength + 1 + 3)
    (wholeTopicNames topicName members qosPolicies).topic (.inl (Nat.succ_pos _))
  have type := @snprintf_eq_iff cfg.typeNameMaxLength _ (.inr (typeNameText_pos members))
  rw [wholeTopicNames_topic_length] at topic
  constructor
  · intro same
    exact ⟨topic.1 (congrArg TopicNames.topic same), type.1 (congrArg TopicNames.type same)⟩
  · rintro ⟨topicFits, typeFits⟩
    exact congrArg₂ TopicNames.mk (topic.2 topicFits) (type.2 typeFits)

/-- The names printed are the whole ones when they are as long together. -/
theorem printedTopicNames_of_length
    (h : (printedTopicNames cfg topicName members qosPolicies).topic.length +
        (printedTopicNames cfg topicName members qosPolicies).type.length =
      (wholeTopicNames topicName members qosPolicies).topic.length +
        (wholeTopicNames topicName members qosPolicies).type.length) :
    printedTopicNames cfg topicName members qosPolicies = wholeTopicNames topicName members qosPolicies := by
  have topicLe : (printedTopicNames cfg topicName members qosPolicies).topic.length ≤
      (wholeTopicNames topicName members qosPolicies).topic.length := snprintf_length_le _ _
  have typeLe : (printedTopicNames cfg topicName members qosPolicies).type.length ≤
      (wholeTopicNames topicName members qosPolicies).type.length := snprintf_length_le _ _
  have topic : (printedTopicNames cfg topicName members qosPolicies).topic.length =
      (wholeTopicNames topicName members qosPolicies).topic.length := by omega
  have type : (printedTopicNames cfg topicName members qosPolicies).type.length =
      (wholeTopicNames topicName members qosPolicies).type.length := by omega
  exact congrArg₂ TopicNames.mk (snprintf_eq_of_length topic) (snprintf_eq_of_length type)

/-- A topic document holds the whole names when the two fit. -/
theorem topicDocument_whole_iff (cfg : Config) (topicName : CStr) (members : MessageTypeSupportCallbacks)
    (qosPolicies : RmwQosProfile) :
    topicDocument (printedTopicNames cfg topicName members qosPolicies) =
        topicDocument (wholeTopicNames topicName members qosPolicies) ↔
      TopicFits cfg topicName qosPolicies ∧ TypeFits cfg members := by
  rw [← printedTopicNames_eq_iff]
  constructor
  · intro same
    exact printedTopicNames_of_length (topicDocument_length same)
  · intro same
    rw [same]

theorem endpointDocument_whole_iff (cfg : Config) (element topicName : CStr)
    (members : MessageTypeSupportCallbacks) (qosPolicies : RmwQosProfile) :
    endpointDocument element qosPolicies (printedTopicNames cfg topicName members qosPolicies) =
        endpointDocument element qosPolicies (wholeTopicNames topicName members qosPolicies) ↔
      TopicFits cfg topicName qosPolicies ∧ TypeFits cfg members := by
  rw [← printedTopicNames_eq_iff]
  constructor
  · intro same
    exact printedTopicNames_of_length (endpointDocument_length same)
  · intro same
    rw [same]

theorem topicDocument_pos (names : TopicNames) : 0 < (topicDocument names).length := by
  unfold topicDocument
  simp only [List.length_append, String.length_toList]
  exact Nat.add_pos_right _ (by decide +kernel)

theorem endpointDocument_pos (element : CStr) (names : TopicNames) :
    0 < (endpointDocument element qosPolicies names).length := by
  unfold endpointDocument endpointFormat
  simp only [List.length_append, String.length_toList]
  exact Nat.add_pos_right _ (Nat.add_pos_right _ (by decide +kernel))

/-- Where `build_topic_xml` is right: it refuses the names, or the document fits. -/
theorem topic_complete_iff (cfg : Config) (topicName : CStr) (members : MessageTypeSupportCallbacks)
    (qosPolicies : RmwQosProfile) (buffer : CStr) (size : Nat) :
    Complete (topicDocument (wholeTopicNames topicName members qosPolicies)) size
        (buildTopicXml cfg topicName members qosPolicies buffer size) ↔
      cfg.topicNameMaxLength < topicName.length ∨ ¬TypeFits cfg members ∨
        (topicDocument (wholeTopicNames topicName members qosPolicies)).length < size := by
  have fits : (generateTypeName members cfg.typeNameMaxLength).1 = true ↔ TypeFits cfg members :=
    decide_eq_true_iff
  by_cases accepted : topicName.length ≤ cfg.topicNameMaxLength ∧ TypeFits cfg members
  · have built : buildTopicXml cfg topicName members qosPolicies buffer size =
        ((topicDocument (printedTopicNames cfg topicName members qosPolicies)).length,
          (topicDocument (printedTopicNames cfg topicName members qosPolicies)).take (size - 1)) :=
      if_pos ⟨accepted.1, fits.2 accepted.2⟩
    have topic : TopicFits cfg topicName qosPolicies := by
      unfold TopicFits
      split
      · omega
      · omega
    rw [built, complete_iff (topicDocument_pos _), topicDocument_whole_iff]
    have short := accepted.1
    have type := accepted.2
    constructor
    · rintro ⟨-, room⟩
      exact .inr (.inr room)
    · rintro (long | refused | room)
      · omega
      · exact absurd type refused
      · exact ⟨⟨topic, type⟩, room⟩
  · have built : buildTopicXml cfg topicName members qosPolicies buffer size = (0, buffer) :=
      if_neg fun h => accepted ⟨h.1, fits.1 h.2⟩
    rw [built]
    refine ⟨fun _ => ?_, fun _ => complete_zero _ _ _⟩
    rcases not_and_or.1 accepted with long | refused
    · exact .inl (Nat.lt_of_not_le long)
    · exact .inr (.inl refused)

/-- Where the builders of a datawriter and a datareader are right: they refuse the type name, or the
topic name fits their buffer and the document that of the caller. -/
theorem endpoint_complete_iff (cfg : Config) (element topicName : CStr)
    (members : MessageTypeSupportCallbacks) (qosPolicies : RmwQosProfile) (buffer : CStr) (size : Nat) :
    Complete (endpointDocument element qosPolicies (wholeTopicNames topicName members qosPolicies)) size
        (buildXml cfg (endpointFormat element) topicName members qosPolicies buffer size) ↔
      ¬TypeFits cfg members ∨ TopicFits cfg topicName qosPolicies ∧
        (endpointDocument element qosPolicies
          (wholeTopicNames topicName members qosPolicies)).length < size := by
  have fits : (generateTypeName members cfg.typeNameMaxLength).1 = true ↔ TypeFits cfg members :=
    decide_eq_true_iff
  by_cases type : TypeFits cfg members
  · have built : buildXml cfg (endpointFormat element) topicName members qosPolicies buffer size =
        ((endpointDocument element qosPolicies
            (printedTopicNames cfg topicName members qosPolicies)).length,
          (endpointDocument element qosPolicies
            (printedTopicNames cfg topicName members qosPolicies)).take (size - 1)) :=
      if_pos (fits.2 type)
    rw [built, complete_iff (endpointDocument_pos _ _), endpointDocument_whole_iff]
    constructor
    · rintro ⟨⟨topic, -⟩, room⟩
      exact .inr ⟨topic, room⟩
    · rintro (refused | ⟨topic, room⟩)
      · exact absurd type refused
      · exact ⟨⟨topic, type⟩, room⟩
  · have built : buildXml cfg (endpointFormat element) topicName members qosPolicies buffer size = (0, buffer) :=
      if_neg fun h => type (fits.1 h)
    rw [built]
    exact ⟨fun _ => .inl type, fun _ => complete_zero _ _ _⟩

end Topic

/-! ## Services -/

section Service

variable {serviceName : CStr} {members : ServiceTypeSupportCallbacks}

/-- `build_service_xml` refuses a service name whose topics do not fit. For a profile that avoids the ROS
namespace conventions the reply topic, too, is held against the larger buffer of the request topic. -/
def ServiceRefused (cfg : Config) (serviceName : CStr) (qosPolicies : RmwQosProfile) : Prop :=
  cfg.topicNameMaxLength + (if qosPolicies.avoidRosNamespaceConventions then 13 else 4) ≤ serviceName.length

/-- The reply topic fits its own buffer. -/
def ReplyFits (cfg : Config) (serviceName : CStr) (qosPolicies : RmwQosProfile) : Prop :=
  serviceName.length < cfg.topicNameMaxLength + (if qosPolicies.avoidRosNamespaceConventions then 11 else 4)

instance : Decidable (ServiceRefused cfg serviceName qosPolicies) := inferInstanceAs (Decidable (_ ≤ _))

instance : Decidable (ReplyFits cfg serviceName qosPolicies) := inferInstanceAs (Decidable (_ < _))

/-- What `build_service_xml` prints for the names. -/
def printedServiceNames (cfg : Config) (serviceName : CStr) (members : ServiceTypeSupportCallbacks)
    (qosPolicies : RmwQosProfile) : ServiceNames where
  requestTopic := (snprintf (cfg.topicNameMaxLength + 1 + 3 + 1 + 8)
    (wholeServiceNames serviceName members qosPolicies).requestTopic).1
  replyTopic := (snprintf (cfg.topicNameMaxLength + 1 + 3 + 1 + 6)
    (wholeServiceNames serviceName members qosPolicies).replyTopic).1
  requestType := (generateTypeName members.requestMembers cfg.typeNameMaxLength).2
  replyType := (generateTypeName members.responseMembers cfg.typeNameMaxLength).2

theorem buildServiceXml_eq (cfg : Config) (id serviceName : CStr) (requester : Bool)
    (members : ServiceTypeSupportCallbacks) (qosPolicies : RmwQosProfile) (buffer : CStr) (size : Nat) :
    buildServiceXml cfg id serviceName requester members qosPolicies buffer size =
      if ServiceRefused cfg serviceName qosPolicies then (0, buffer)
      else ((serviceDocument id serviceName requester
          (printedServiceNames cfg serviceName members qosPolicies)).length,
        (serviceDocument id serviceName requester
          (printedServiceNames cfg serviceName members qosPolicies)).take (size - 1)) := by
  have request : (rosRequestPrefix ++ serviceName ++ rosRequestSubfix).length = serviceName.length + 9 := by
    simp only [List.length_append, rosRequestPrefix, rosRequestSubfix, List.length_cons, List.length_nil]
    omega
  have reply : (rosReplyPrefix ++ serviceName ++ rosReplySubfix).length = serviceName.length + 7 := by
    simp only [List.length_append, rosReplyPrefix, rosReplySubfix, List.length_cons, List.length_nil]
    omega
  by_cases refused : ServiceRefused cfg serviceName qosPolicies
  · rw [if_pos refused]
    unfold ServiceRefused at refused
    unfold buildServiceXml
    dsimp only
    cases avoid : qosPolicies.avoidRosNamespaceConventions with
    | true =>
      simp only [avoid, if_true] at refused ⊢
      have first : cfg.topicNameMaxLength + 1 + 3 + 1 + 8 ≤ serviceName.length := by omega
      exact if_pos first
    | false =>
      simp only [avoid, Bool.false_eq_true, if_false] at refused ⊢
      have first : cfg.topicNameMaxLength + 1 + 3 + 1 + 8 ≤
          (rosRequestPrefix ++ serviceName ++ rosRequestSubfix).length := by omega
      exact if_pos first
  · rw [if_neg refused]
    unfold ServiceRefused at refused
    unfold buildServiceXml serviceDocument printedServiceNames wholeServiceNames
    dsimp only
    cases avoid : qosPolicies.avoidRosNamespaceConventions with
    | true =>
      simp only [avoid, if_true] at refused ⊢
      have first : ¬cfg.topicNameMaxLength + 1 + 3 + 1 + 8 ≤
          (snprintf (cfg.topicNameMaxLength + 1 + 3 + 1 + 8) serviceName).2 := by
        rw [snprintf_snd]
        omega
      have second : ¬cfg.topicNameMaxLength + 1 + 3 + 1 + 8 ≤
          (snprintf (cfg.topicNameMaxLength + 1 + 3 + 1 + 6) serviceName).2 := first
      rw [if_neg first, if_neg second]
      simp only [snprintf]
    | false =>
      simp only [avoid, Bool.false_eq_true, if_false] at refused ⊢
      have first : ¬cfg.topicNameMaxLength + 1 + 3 + 1 + 8 ≤ (snprintf (cfg.topicNameMaxLength + 1 + 3 + 1 + 8)
          (rosRequestPrefix ++ serviceName ++ rosRequestSubfix)).2 := by
        rw [snprintf_snd]
        omega
      have second : ¬cfg.topicNameMaxLength + 1 + 3 + 1 + 6 ≤ (snprintf (cfg.topicNameMaxLength + 1 + 3 + 1 + 6)
          (rosReplyPrefix ++ serviceName ++ rosReplySubfix)).2 := by
        rw [snprintf_snd]
        omega
      rw [if_neg first, if_neg second]
      simp only [snprintf]

theorem wholeServiceNames_replyTopic_length (serviceName : CStr) (members : ServiceTypeSupportCallbacks)
    (qosPolicies : RmwQosProfile) :
    (wholeServiceNames serviceName members qosPolicies).replyTopic.length =
      serviceName.length + (if qosPolicies.avoidRosNamespaceConventions then 0 else 7) := by
  unfold wholeServiceNames
  dsimp only
  split
  · rfl
  · simp only [List.length_append, rosReplyPrefix, rosReplySubfix, List.length_cons, List.length_nil]
    omega

theorem wholeServiceNames_requestTopic_length (serviceName : CStr) (members : ServiceTypeSupportCallbacks)
    (qosPolicies : RmwQosProfile) :
    (wholeServiceNames serviceName members qosPolicies).requestTopic.length =
      serviceName.length + (if qosPolicies.avoidRosNamespaceConventions then 0 else 9) := by
  unfold wholeServiceNames
  dsimp only
  split
  · rfl
  · simp only [List.length_append, rosRequestPrefix, rosRequestSubfix, List.length_cons, List.length_nil]
    omega

/-- A service document holds the whole names, for a service name that is not refused, when the type names
and the reply topic fit. -/
theorem serviceDocument_whole_iff {serviceName : CStr} (accepted : ¬ServiceRefused cfg serviceName qosPolicies)
    (id : CStr) (requester : Bool) (members : ServiceTypeSupportCallbacks) :
    serviceDocument id serviceName requester (printedServiceNames cfg serviceName members qosPolicies) =
        serviceDocument id serviceName requester (wholeServiceNames serviceName members qosPolicies) ↔
      TypeFits cfg members.requestMembers ∧ TypeFits cfg members.responseMembers ∧
        ReplyFits cfg serviceName qosPolicies := by
  have requestType := @snprintf_eq_iff cfg.typeNameMaxLength _
    (.inr (typeNameText_pos members.requestMembers))
  have replyType := @snprintf_eq_iff cfg.typeNameMaxLength _
    (.inr (typeNameText_pos members.responseMembers))
  have replyTopic := @snprintf_eq_iff (cfg.topicNameMaxLength + 1 + 3 + 1 + 6)
    (wholeServiceNames serviceName members qosPolicies).replyTopic (.inl (Nat.succ_pos _))
  have requestTopic := @snprintf_eq_iff (cfg.topicNameMaxLength + 1 + 3 + 1 + 8)
    (wholeServiceNames serviceName members qosPolicies).requestTopic (.inl (Nat.succ_pos _))
  have request : (wholeServiceNames serviceName members qosPolicies).requestTopic.length <
      cfg.topicNameMaxLength + 1 + 3 + 1 + 8 := by
    rw [wholeServiceNames_requestTopic_length]
    unfold ServiceRefused at accepted
    split at accepted
    · rw [if_pos ‹_›]
      omega
    · rw [if_neg ‹_›]
      omega
  have reply : (wholeServiceNames serviceName members qosPolicies).replyTopic.length <
      cfg.topicNameMaxLength + 1 + 3 + 1 + 6 ↔ ReplyFits cfg serviceName qosPolicies := by
    rw [wholeServiceNames_replyTopic_length, ReplyFits]
    split
    · omega
    · omega
  constructor
  · intro same
    have sum := serviceDocument_length same
    have requestTypeLe : (printedServiceNames cfg serviceName members qosPolicies).requestType.length ≤
        (wholeServiceNames serviceName members qosPolicies).requestType.length := snprintf_length_le _ _
    have replyTypeLe : (printedServiceNames cfg serviceName members qosPolicies).replyType.length ≤
        (wholeServiceNames serviceName members qosPolicies).replyType.length := snprintf_length_le _ _
    have requestTopicLe : (printedServiceNames cfg serviceName members qosPolicies).requestTopic.length ≤
        (wholeServiceNames serviceName members qosPolicies).requestTopic.length := snprintf_length_le _ _
    have replyTopicLe : (printedServiceNames cfg serviceName members qosPolicies).replyTopic.length ≤
        (wholeServiceNames serviceName members qosPolicies).replyTopic.length := snprintf_length_le _ _
    have e₁ : (printedServiceNames cfg serviceName members qosPolicies).requestType.length =
        (wholeServiceNames serviceName members qosPolicies).requestType.length := by omega
    have e₂ : (printedServiceNames cfg serviceName members qosPolicies).replyType.length =
        (wholeServiceNames serviceName members qosPolicies).replyType.length := by omega
    have e₃ : (printedServiceNames cfg serviceName members qosPolicies).replyTopic.length =
        (wholeServiceNames serviceName members qosPolicies).replyTopic.length := by omega
    exact ⟨requestType.1 (snprintf_eq_of_length e₁), replyType.1 (snprintf_eq_of_length e₂),
      reply.1 (replyTopic.1 (snprintf_eq_of_length e₃))⟩
  · rintro ⟨requestFits, replyFits, topicFits⟩
    have names : printedServiceNames cfg serviceName members qosPolicies =
        wholeServiceNames serviceName members qosPolicies := by
      unfold printedServiceNames
      rw [requestTopic.2 request, replyTopic.2 (reply.2 topicFits)]
      exact congrArg₂ (ServiceNames.mk _ _) (requestType.2 requestFits) (replyType.2 replyFits)
    rw [names]

theorem serviceDocument_pos (id serviceName : CStr) (requester : Bool) (names : ServiceNames) :
    0 < (serviceDocument id serviceName requester names).length := by
  unfold serviceDocument
  simp only [List.length_append, String.length_toList]
  exact Nat.add_pos_right _ (by decide +kernel)

/-- Where `build_service_xml` is right: it refuses the service name, or the type names and the reply topic
fit their buffers and the document that of the caller. -/
theorem service_complete_iff (cfg : Config) (id serviceName : CStr) (requester : Bool)
    (members : ServiceTypeSupportCallbacks) (qosPolicies : RmwQosProfile) (buffer : CStr) (size : Nat) :
    Complete (serviceDocument id serviceName requester (wholeServiceNames serviceName members qosPolicies)) size
        (buildServiceXml cfg id serviceName requester members qosPolicies buffer size) ↔
      ServiceRefused cfg serviceName qosPolicies ∨
        (TypeFits cfg members.requestMembers ∧ TypeFits cfg members.responseMembers ∧
          ReplyFits cfg serviceName qosPolicies) ∧
        (serviceDocument id serviceName requester
          (wholeServiceNames serviceName members qosPolicies)).length < size := by
  rw [buildServiceXml_eq]
  by_cases refused : ServiceRefused cfg serviceName qosPolicies
  · rw [if_pos refused]
    exact ⟨fun _ => .inl refused, fun _ => complete_zero _ _ _⟩
  · rw [if_neg refused, complete_iff (serviceDocument_pos ..), serviceDocument_whole_iff refused]
    exact (or_iff_right refused).symm

end Service

/-! ## The builders -/

/-- **The builders report success for whole documents only** just where the names that they do not check
fit and the document fits the buffer of the caller, or they refuse. -/
theorem builders_complete_iff (cfg : Config) (qosPolicies : RmwQosProfile) (buffer : CStr) (size : Nat) :
    (∀ participantName,
      Complete (participantDocument participantName) size (buildParticipantXml participantName size) ↔
        (participantDocument participantName).length < size) ∧
    (∀ id serviceName requester members,
      let document := serviceDocument id serviceName requester
        (wholeServiceNames serviceName members qosPolicies)
      Complete document size (buildServiceXml cfg id serviceName requester members qosPolicies buffer size) ↔
        ServiceRefused cfg serviceName qosPolicies ∨
          (TypeFits cfg members.requestMembers ∧ TypeFits cfg members.responseMembers ∧
            ReplyFits cfg serviceName qosPolicies) ∧ document.length < size) ∧
    (∀ topicName members,
      let document := topicDocument (wholeTopicNames topicName members qosPolicies)
      Complete document size (buildTopicXml cfg topicName members qosPolicies buffer size) ↔
        cfg.topicNameMaxLength < topicName.length ∨ ¬TypeFits cfg members ∨ document.length < size) ∧
    (∀ topicName members,
      let document := endpointDocument "data_writer".toList qosPolicies
        (wholeTopicNames topicName members qosPolicies)
      Complete document size (buildDatawriterXml cfg topicName members qosPolicies buffer size) ↔
        ¬TypeFits cfg members ∨ TopicFits cfg topicName qosPolicies ∧ document.length < size) ∧
    ∀ topicName members,
      let document := endpointDocument "data_reader".toList qosPolicies
        (wholeTopicNames topicName members qosPolicies)
      Complete document size (buildDatareaderXml cfg topicName members qosPolicies buffer size) ↔
        ¬TypeFits cfg members ∨ TopicFits cfg topicName qosPolicies ∧ document.length < size := by
  refine ⟨fun _ => participant_complete_iff _ size, fun _ _ _ _ => service_complete_iff .., fun _ _ =>
    topic_complete_iff .., fun _ _ => endpoint_complete_iff .., fun _ _ => endpoint_complete_iff ..⟩

/-- Results above zero for documents that were cut: a participant and a topic in a buffer of 10 bytes; in
one of 2000 bytes, a service with a request type that does not fit its buffer, a service whose reply topic
does not, and a datawriter and a datareader whose topic name does not. -/
theorem builders_report_cut_documents :
    let kept := Small.profile 1 ⟨0, 0⟩
    let avoided := { kept with avoidRosNamespaceConventions := true }
    let long : CStr := List.replicate 71 'x'
    let topic : CStr := List.replicate 62 'x'
    let message : MessageTypeSupportCallbacks := ⟨none, ['m']⟩
    ¬Complete (participantDocument ['n']) 10 (buildParticipantXml ['n'] 10) ∧
      ¬Complete (topicDocument (wholeTopicNames ['t'] message kept)) 10
        (buildTopicXml Small.config ['t'] message kept [] 10) ∧
      ¬Complete (serviceDocument ['1'] ['s'] true (wholeServiceNames ['s'] ⟨⟨none, long⟩, message⟩ kept)) 2000
        (buildServiceXml Small.config ['1'] ['s'] true ⟨⟨none, long⟩, message⟩ kept [] 2000) ∧
      ¬Complete (serviceDocument ['1'] long true (wholeServiceNames long ⟨message, message⟩ avoided)) 2000
        (buildServiceXml Small.config ['1'] long true ⟨message, message⟩ avoided [] 2000) ∧
      ¬Complete (endpointDocument "data_writer".toList kept (wholeTopicNames topic message kept)) 2000
        (buildDatawriterXml Small.config topic message kept [] 2000) ∧
      ¬Complete (endpointDocument "data_reader".toList kept (wholeTopicNames topic message kept)) 2000
        (buildDatareaderXml Small.config topic message kept [] 2000) := by
  decide +kernel

end RmwMicroxrcedds
