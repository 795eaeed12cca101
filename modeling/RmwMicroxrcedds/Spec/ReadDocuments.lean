import RmwMicroxrcedds.Base.Templates
import RmwMicroxrcedds.Spec.Documents

/-!
# Documents can be read back

Each creation document is made from a template, whose fields are the names and the role or element of the entity.
As long as the names hold no markup, what a builder leaves in the buffer of its caller gives exactly the names back
that it printed, unless it was cut; and a document that was cut anywhere cannot be read at all.
-/

namespace RmwMicroxrcedds
set_option autoImplicit false

open Templates

variable {cfg : Config}

/-! ## Templates -/

/-- What distinguishes documents for their reader; those of datawriters and datareaders differ in a field. -/
inductive DocumentKind where
  | participant | service | topic | endpoint
deriving DecidableEq

def DocumentKind.template : DocumentKind → Template Char
  | participant => ⟨"<dds><participant><rtps><name>".toList,
      [⟨"</name></rtps></participant></dds>".toList, '<', by decide +kernel⟩]⟩
  | service => ⟨"<dds><".toList,
      [⟨" profile_name=\"".toList, ' ', by decide +kernel⟩,
        ⟨"\" service_name=\"".toList, '"', by decide +kernel⟩,
        ⟨"\" request_type=\"".toList, '"', by decide +kernel⟩,
        ⟨"\" reply_type=\"".toList, '"', by decide +kernel⟩,
        ⟨"\"><request_topic_name>".toList, '"', by decide +kernel⟩,
        ⟨"</request_topic_name><reply_topic_name>".toList, '<', by decide +kernel⟩,
        ⟨"</reply_topic_name></".toList, '<', by decide +kernel⟩,
        ⟨"></dds>".toList, '>', by decide +kernel⟩]⟩
  | topic => ⟨"<dds><topic><name>".toList,
      [⟨"</name><dataType>".toList, '<', by decide +kernel⟩,
        ⟨"</dataType></topic></dds>".toList, '<', by decide +kernel⟩]⟩
  | endpoint => ⟨"<dds><".toList,
      [⟨"><historyMemoryPolicy>PREALLOCATED_WITH_REALLOC</historyMemoryPolicy><qos><reliability><kind>".toList,
          '>', by decide +kernel⟩,
        ⟨"</kind></reliability></qos><topic><kind>NO_KEY</kind><name>".toList, '<', by decide +kernel⟩,
        ⟨"</name><dataType>".toList, '<', by decide +kernel⟩,
        ⟨"</dataType><historyQos><kind>KEEP_ALL</kind></historyQos></topic></".toList, '<', by decide +kernel⟩,
        ⟨"></dds>".toList, '>', by decide +kernel⟩]⟩

/-- The fields of a document. -/
def readDocument (kind : DocumentKind) (xml : CStr) : Option (List CStr) := kind.template.read xml

/-! ## Documents -/

/-- What a document is built for. -/
inductive Document where
  | participant (participantName : CStr)
  | service (serviceNameId serviceName : CStr) (requester : Bool) (members : ServiceTypeSupportCallbacks)
      (qosPolicies : RmwQosProfile)
  | topic (topicName : CStr) (members : MessageTypeSupportCallbacks) (qosPolicies : RmwQosProfile)
  | datawriter (topicName : CStr) (members : MessageTypeSupportCallbacks) (qosPolicies : RmwQosProfile)
  | datareader (topicName : CStr) (members : MessageTypeSupportCallbacks) (qosPolicies : RmwQosProfile)
deriving DecidableEq

namespace Document

def kind : Document → DocumentKind
  | participant .. => .participant
  | service .. => .service
  | topic .. => .topic
  | datawriter .. | datareader .. => .endpoint

/-- The call of the builder, with a buffer of the given text and size. -/
def build (cfg : Config) (buffer : CStr) (bufferSize : Nat) : Document → Nat × CStr
  | participant participantName => buildParticipantXml participantName bufferSize
  | service id serviceName requester members qosPolicies =>
    buildServiceXml cfg id serviceName requester members qosPolicies buffer bufferSize
  | topic topicName members qosPolicies => buildTopicXml cfg topicName members qosPolicies buffer bufferSize
  | datawriter topicName members qosPolicies => buildDatawriterXml cfg topicName members qosPolicies buffer bufferSize
  | datareader topicName members qosPolicies => buildDatareaderXml cfg topicName members qosPolicies buffer bufferSize

def roleText (requester : Bool) : CStr := if requester then "requester".toList else "replier".toList

/-- The fields of a datawriter or datareader. -/
def endpointFields (cfg : Config) (element topicName : CStr) (members : MessageTypeSupportCallbacks)
    (qosPolicies : RmwQosProfile) : List CStr :=
  let names := printedTopicNames cfg topicName members qosPolicies
  let kind := if qosPolicies.reliability = .bestEffort then "BEST_EFFORT".toList else "RELIABLE".toList
  [element, kind, names.topic, names.type, element]

/-- What the document says, in the order in which it says it. -/
def fields (cfg : Config) : Document → List CStr
  | participant participantName => [participantName]
  | service id serviceName requester members qosPolicies =>
    let names := printedServiceNames cfg serviceName members qosPolicies
    [roleText requester, id, serviceName, names.requestType, names.replyType, names.requestTopic,
      names.replyTopic, roleText requester]
  | topic topicName members qosPolicies =>
    let names := printedTopicNames cfg topicName members qosPolicies
    [names.topic, names.type]
  | datawriter topicName members qosPolicies =>
    endpointFields cfg "data_writer".toList topicName members qosPolicies
  | datareader topicName members qosPolicies =>
    endpointFields cfg "data_reader".toList topicName members qosPolicies

/-- The text around its fields. -/
def text (cfg : Config) (d : Document) : CStr := d.kind.template.render (d.fields cfg)

end Document

/-! ## What the builders write -/

section Texts

variable {qosPolicies : RmwQosProfile} {members : MessageTypeSupportCallbacks} {topicName : CStr}

theorem participant_text (name : CStr) : (Document.participant name).text cfg = participantDocument name := by
  unfold participantDocument Document.text Document.kind Template.render Document.fields DocumentKind.template
  simp only [spell, List.append_assoc, List.append_nil]

theorem topic_text : (Document.topic topicName members qosPolicies).text cfg =
    topicDocument (printedTopicNames cfg topicName members qosPolicies) := by
  unfold topicDocument Document.text Document.kind Template.render Document.fields DocumentKind.template
  simp only [spell, List.append_assoc, List.append_nil]

theorem service_text (id serviceName : CStr) (requester : Bool) (members : ServiceTypeSupportCallbacks) :
    (Document.service id serviceName requester members qosPolicies).text cfg =
      serviceDocument id serviceName requester (printedServiceNames cfg serviceName members qosPolicies) := by
  unfold serviceDocument Document.text Document.kind Template.render Document.fields DocumentKind.template
  simp only [Document.roleText, spell, List.append_assoc, List.append_nil]

theorem endpoint_text (element : CStr) : DocumentKind.endpoint.template.render
    (Document.endpointFields cfg element topicName members qosPolicies) =
      endpointDocument element qosPolicies (printedTopicNames cfg topicName members qosPolicies) := by
  unfold endpointDocument endpointFormat Document.endpointFields Template.render DocumentKind.template
  simp only [spell, List.append_assoc, List.append_nil]

/-- A builder refuses, or it prints the document as far as the buffer reaches. -/
theorem build_cases (cfg : Config) (d : Document) (buffer : CStr) (size : Nat) :
    d.build cfg buffer size = (0, buffer) ∨ d.build cfg buffer size = ((d.text cfg).length, (d.text cfg).take (size - 1)) := by
  have endpoint : ∀ (element topicName : CStr) members qosPolicies,
      buildXml cfg (endpointFormat element) topicName members qosPolicies buffer size = (0, buffer) ∨
        buildXml cfg (endpointFormat element) topicName members qosPolicies buffer size =
          ((endpointDocument element qosPolicies (printedTopicNames cfg topicName members qosPolicies)).length,
            (endpointDocument element qosPolicies
              (printedTopicNames cfg topicName members qosPolicies)).take (size - 1)) := by
    intro element topicName members qosPolicies
    by_cases fits : (generateTypeName members cfg.typeNameMaxLength).1 = true
    · exact .inr (if_pos fits)
    · exact .inl (if_neg fits)
  cases d with
  | participant name =>
    rw [participant_text]
    exact .inr rfl
  | service id serviceName requester members qosPolicies =>
    rw [service_text]
    have built := buildServiceXml_eq cfg id serviceName requester members qosPolicies buffer size
    by_cases refused : ServiceRefused cfg serviceName qosPolicies
    · exact .inl (built.trans (if_pos refused))
    · exact .inr (built.trans (if_neg refused))
  | topic topicName members qosPolicies =>
    rw [topic_text]
    by_cases accepted : topicName.length ≤ cfg.topicNameMaxLength ∧
        (generateTypeName members cfg.typeNameMaxLength).1 = true
    · exact .inr (if_pos accepted)
    · exact .inl (if_neg accepted)
  | datawriter topicName members qosPolicies =>
    have text : (Document.datawriter topicName members qosPolicies).text cfg = _ := endpoint_text _
    rw [text]
    exact endpoint _ _ _ _
  | datareader topicName members qosPolicies =>
    have text : (Document.datareader topicName members qosPolicies).text cfg = _ := endpoint_text _
    rw [text]
    exact endpoint _ _ _ _

end Texts

/-! ## Names without markup -/

/-- The text holds none of the characters that end a name in a document. -/
def Unmarked (text : CStr) : Prop := '<' ∉ text ∧ '"' ∉ text

instance (text : CStr) : Decidable (Unmarked text) := inferInstanceAs (Decidable (_ ∧ _))

theorem unmarked_append {l m : CStr} : Unmarked (l ++ m) ↔ Unmarked l ∧ Unmarked m := by
  simp only [Unmarked, List.mem_append, not_or]
  tauto

/-- What is cut off takes no markup in. -/
theorem Unmarked.print {text : CStr} (h : Unmarked text) (size : Nat) : Unmarked (snprintf size text).1 :=
  ⟨fun mem => h.1 (List.mem_of_mem_take mem), fun mem => h.2 (List.mem_of_mem_take mem)⟩

/-- The namespace and the name of a type. -/
def MessageTypeSupportCallbacks.Unmarked (members : MessageTypeSupportCallbacks) : Prop :=
  (∀ ns ∈ members.messageNamespace, RmwMicroxrcedds.Unmarked ns) ∧
    RmwMicroxrcedds.Unmarked members.messageName

instance (members : MessageTypeSupportCallbacks) : Decidable members.Unmarked :=
  inferInstanceAs (Decidable (_ ∧ _))

theorem MessageTypeSupportCallbacks.Unmarked.text {members : MessageTypeSupportCallbacks} (h : members.Unmarked) :
    RmwMicroxrcedds.Unmarked (typeNameText members) := by
  obtain ⟨ns, name⟩ := members
  have plain : RmwMicroxrcedds.Unmarked name := h.2
  have around : RmwMicroxrcedds.Unmarked ['d', 'd', 's', '_', ':', ':'] ∧ RmwMicroxrcedds.Unmarked ['_'] ∧
      RmwMicroxrcedds.Unmarked [':', ':'] := by decide
  cases ns with
  | none =>
    show RmwMicroxrcedds.Unmarked ([] ++ ['d', 'd', 's', '_', ':', ':'] ++ name ++ ['_'])
    exact unmarked_append.2 ⟨unmarked_append.2 ⟨around.1, plain⟩, around.2.1⟩
  | some ns =>
    have begun : RmwMicroxrcedds.Unmarked ns := h.1 ns rfl
    show RmwMicroxrcedds.Unmarked (ns ++ [':', ':'] ++ ['d', 'd', 's', '_', ':', ':'] ++ name ++ ['_'])
    simp only [unmarked_append]
    exact ⟨⟨⟨⟨begun, around.2.2⟩, around.1⟩, plain⟩, around.2.1⟩

/-- The names a document is built from hold no markup. -/
def Document.Unmarked : Document → Prop
  | .participant participantName => RmwMicroxrcedds.Unmarked participantName
  | .service id serviceName _ members _ => RmwMicroxrcedds.Unmarked id ∧ RmwMicroxrcedds.Unmarked serviceName ∧
      members.requestMembers.Unmarked ∧ members.responseMembers.Unmarked
  | .topic topicName members _ | .datawriter topicName members _ | .datareader topicName members _ =>
    RmwMicroxrcedds.Unmarked topicName ∧ members.Unmarked

instance : DecidablePred Document.Unmarked
  | .participant _ => inferInstanceAs (Decidable (RmwMicroxrcedds.Unmarked _))
  | .service .. => inferInstanceAs (Decidable (_ ∧ _ ∧ _ ∧ _))
  | .topic .. => inferInstanceAs (Decidable (_ ∧ _))
  | .datawriter .. => inferInstanceAs (Decidable (_ ∧ _))
  | .datareader .. => inferInstanceAs (Decidable (_ ∧ _))

theorem printedTopicNames_unmarked (cfg : Config) {topicName : CStr} {members : MessageTypeSupportCallbacks}
    (name : Unmarked topicName) (type : members.Unmarked) (qosPolicies : RmwQosProfile) :
    let names := printedTopicNames cfg topicName members qosPolicies
    Unmarked names.topic ∧ Unmarked names.type := by
  intro names
  refine ⟨Unmarked.print ?_ _, type.text.print _⟩
  split
  · exact name
  · exact unmarked_append.2 ⟨by decide, name⟩

theorem printedServiceNames_unmarked (cfg : Config) {serviceName : CStr} {members : ServiceTypeSupportCallbacks}
    (name : Unmarked serviceName) (request : members.requestMembers.Unmarked)
    (response : members.responseMembers.Unmarked) (qosPolicies : RmwQosProfile) :
    let names := printedServiceNames cfg serviceName members qosPolicies
    Unmarked names.requestType ∧ Unmarked names.replyType ∧ Unmarked names.requestTopic ∧
      Unmarked names.replyTopic := by
  intro names
  refine ⟨request.text.print _, response.text.print _, Unmarked.print ?_ _, Unmarked.print ?_ _⟩
  · unfold wholeServiceNames
    dsimp only
    split
    · exact name
    · exact unmarked_append.2 ⟨unmarked_append.2 ⟨by decide, name⟩, by decide⟩
  · unfold wholeServiceNames
    dsimp only
    split
    · exact name
    · exact unmarked_append.2 ⟨unmarked_append.2 ⟨by decide, name⟩, by decide⟩

/-- No field holds the mark after it. -/
theorem Document.Unmarked.marked {d : Document} (h : d.Unmarked) : Marked (d.fields cfg) d.kind.template.literals := by
  have endpoint : ∀ (element topicName : CStr) members qosPolicies, '>' ∉ element →
      RmwMicroxrcedds.Unmarked topicName → members.Unmarked →
      Marked (endpointFields cfg element topicName members qosPolicies) DocumentKind.endpoint.template.literals := by
    intro element topicName members qosPolicies plain name type
    obtain ⟨topic, typeName⟩ := printedTopicNames_unmarked cfg name type qosPolicies
    have kind : '<' ∉ (if qosPolicies.reliability = .bestEffort then "BEST_EFFORT".toList
        else "RELIABLE".toList) := by
      split <;> decide +kernel
    exact ⟨plain, kind, topic.1, typeName.1, plain, trivial⟩
  cases d with
  | participant name => exact ⟨h.1, trivial⟩
  | service id serviceName requester members qosPolicies =>
    obtain ⟨profile, name, request, response⟩ := h
    obtain ⟨requestType, replyType, requestTopic, replyTopic⟩ :=
      printedServiceNames_unmarked cfg name request response qosPolicies
    have role : ' ' ∉ roleText requester ∧ '>' ∉ roleText requester := by
      cases requester <;> decide +kernel
    exact ⟨role.1, profile.2, name.2, requestType.2, replyType.2, requestTopic.1, replyTopic.1, role.2, trivial⟩
  | topic topicName members qosPolicies =>
    obtain ⟨topic, type⟩ := printedTopicNames_unmarked cfg h.1 h.2 qosPolicies
    exact ⟨topic.1, type.1, trivial⟩
  | datawriter topicName members qosPolicies =>
    exact endpoint _ _ _ _ (by decide +kernel) h.1 h.2
  | datareader topicName members qosPolicies =>
    exact endpoint _ _ _ _ (by decide +kernel) h.1 h.2

/-! ## Reading -/

theorem opening_pos (kind : DocumentKind) : 0 < kind.template.opening.length := by
  cases kind <;> decide +kernel

theorem Document.text_pos (d : Document) : 0 < (d.text cfg).length := by
  have opening := opening_pos d.kind
  rw [Document.text, Template.render, List.length_append]
  omega

/-- **Documents can be read back.** For every name, type, profile, role and buffer: a builder refuses and leaves the
buffer as it was, or what it leaves in the buffer can be read exactly if the length it returns is below the size of
the buffer, and what is read are the names it printed; a document that was cut, wherever that is, is no document to
its reader. -/
theorem documents_read_back (cfg : Config) (d : Document) (plain : d.Unmarked) (buffer : CStr)
    {bufferSize : Nat} (room : 0 < bufferSize) :
    let r := d.build cfg buffer bufferSize
    (r.1 = 0 ∧ r.2 = buffer) ∨
      0 < r.1 ∧ readDocument d.kind r.2 = if r.1 < bufferSize then some (d.fields cfg) else none := by
  intro r
  rcases build_cases cfg d buffer bufferSize with refused | printed
  · have built : r = (0, buffer) := refused
    rw [built]
    exact .inl ⟨rfl, rfl⟩
  · have built : r = ((d.text cfg).length, (d.text cfg).take (bufferSize - 1)) := printed
    have read : readDocument d.kind ((d.text cfg).take (bufferSize - 1)) =
        if (d.text cfg).length ≤ bufferSize - 1 then some (d.fields cfg) else none :=
      Template.read_take plain.marked _
    rw [built]
    refine .inr ⟨d.text_pos, ?_⟩
    dsimp only
    rw [read]
    by_cases fits : (d.text cfg).length < bufferSize
    · rw [if_pos (by omega), if_pos fits]
    · rw [if_neg (by omega), if_neg fits]

/-- A topic document, in a buffer that holds it with its terminator and in one that is a byte short. -/
theorem documents_read_back_chatter :
    let d := Document.topic "/chatter".toList ⟨some "std_msgs::msg".toList, "String".toList⟩ (Small.profile 1 ⟨0, 0⟩)
    readDocument d.kind (d.build Small.config ['x'] 99).2 =
        some ["rt/chatter".toList, "std_msgs::msg::dds_::String_".toList] ∧
      readDocument d.kind (d.build Small.config ['x'] 98).2 = none := by
  intro d
  have plain : d.Unmarked := by decide +kernel
  have printed : ∀ size ∈ [98, 99], (d.build Small.config ['x'] size).1 = 98 := by decide +kernel
  have reads : ∀ size ∈ [98, 99], readDocument d.kind (d.build Small.config ['x'] size).2 =
      if 98 < size then some (d.fields Small.config) else none := by
    intro size mem
    have room : 0 < size := by
      simp only [List.mem_cons, List.not_mem_nil, or_false] at mem
      omega
    rcases documents_read_back Small.config d plain ['x'] room with ⟨zero, -⟩ | ⟨-, read⟩
    · rw [printed size mem] at zero
      cases zero
    · rw [printed size mem] at read
      exact read
  constructor
  · rw [reads 99 (by simp), if_pos (by decide)]
    decide +kernel
  · rw [reads 98 (by simp), if_neg (by decide)]

end RmwMicroxrcedds
