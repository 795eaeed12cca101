import RmwMicroxrcedds.Spec.WholeNames

/-!
# What DDS sees of an entity

Publishers and subscriptions use a DDS topic, services and clients one for requests and one for replies. The names
of these topics carry the sort of the entity and its name, those of their types the message types: all of them can
be read back. In the binary mode what a creation announces is never cut off, so two entities meet on a DDS topic
exactly if they are of one sort and have one name, whatever the names are and wherever the two were created.
-/

namespace RmwMicroxrcedds
set_option autoImplicit false

variable {cfg : Config}

/-! ## Entities in the words of ROS -/

/-- What a creation is about. -/
inductive RosEntity where
  | topic (name : CStr) (type : MessageTypeSupportCallbacks)
  | service (name : CStr) (type : ServiceTypeSupportCallbacks)
deriving DecidableEq

/-- What a call is to create, if it is something that DDS sees. -/
def Call.rosEntity : Call → Option RosEntity
  | .createPublisher _ (some (.callbacks members)) (some topicName) _ => some (.topic topicName members)
  | .createSubscription _ (some (.callbacks members)) (some topicName) _ => some (.topic topicName members)
  | .createService _ (some (.callbacks members)) (some serviceName) _ _ => some (.service serviceName members)
  | .createClient _ (some (.callbacks members)) (some serviceName) _ _ => some (.service serviceName members)
  | _ => none

namespace RosEntity

/-- The DDS topics with their types. -/
def wire : RosEntity → List (CStr × CStr)
  | topic name type => [(rosTopicPrefix ++ name, typeNameText type)]
  | service name type =>
    [(rosRequestPrefix ++ name ++ rosRequestSubfix, typeNameText type.requestMembers),
      (rosReplyPrefix ++ name ++ rosReplySubfix, typeNameText type.responseMembers)]

/-- One sort and one name. -/
def SameName : RosEntity → RosEntity → Prop
  | topic name _, topic name' _ => name = name'
  | service name _, service name' _ => name = name'
  | _, _ => False

instance : DecidableRel SameName
  | topic name _, topic name' _ => inferInstanceAs (Decidable (name = name'))
  | service name _, service name' _ => inferInstanceAs (Decidable (name = name'))
  | topic .., service .. => .isFalse id
  | service .., topic .. => .isFalse id

/-- The names of the message types hold no colon. -/
def PlainTypes : RosEntity → Prop
  | topic _ type => ':' ∉ type.messageName
  | service _ type => ':' ∉ type.requestMembers.messageName ∧ ':' ∉ type.responseMembers.messageName

end RosEntity

/-! ## Reading back -/

/-- The message type of a type name: its name is what follows the last colon. -/
def readTypeName (typeName : CStr) : MessageTypeSupportCallbacks :=
  let back := typeName.dropLast.reverse
  let front := (back.dropWhile (· ≠ ':')).reverse
  { messageName := (back.takeWhile (· ≠ ':')).reverse
    -- a namespace is followed by "::" and the "dds_::" of every type name
    messageNamespace := if front.length < 8 then none else some (front.take (front.length - 8)) }

/-- The entity behind DDS topics and their types. -/
def readWire : List (CStr × CStr) → Option RosEntity
  | [(topic, type)] => some (.topic (topic.drop 2) (readTypeName type))
  | [(requestTopic, requestType), (_, replyType)] =>
    some (.service ((requestTopic.drop 2).take (requestTopic.length - 9))
      ⟨readTypeName requestType, readTypeName replyType⟩)
  | _ => none

/-- The text before and after the last colon. -/
theorem split_last_colon {l m : CStr} (plain : ':' ∉ m) :
    ((l ++ ':' :: m).reverse.takeWhile (· ≠ ':')).reverse = m ∧
      ((l ++ ':' :: m).reverse.dropWhile (· ≠ ':')).reverse = l ++ [':'] := by
  have back : (l ++ ':' :: m).reverse = m.reverse ++ ':' :: l.reverse := by simp
  have before : ∀ c ∈ m.reverse, decide (c ≠ ':') = true := by
    intro c hc
    have mem := List.mem_reverse.1 hc
    simp only [ne_eq, decide_eq_true_eq]
    rintro rfl
    exact plain mem
  rw [back, List.takeWhile_append_of_pos before, List.dropWhile_append_of_pos before]
  simp

theorem readTypeName_text {type : MessageTypeSupportCallbacks} (plain : ':' ∉ type.messageName) :
    readTypeName (typeNameText type) = type := by
  obtain ⟨ns, name⟩ := type
  cases ns with
  | none =>
    have text : (typeNameText ⟨none, name⟩).dropLast = ['d', 'd', 's', '_', ':'] ++ ':' :: name :=
      List.dropLast_concat
    obtain ⟨after, upto⟩ := split_last_colon (l := ['d', 'd', 's', '_', ':']) plain
    simp only [readTypeName, text, after, upto]
    rfl
  | some ns =>
    have text : (typeNameText ⟨some ns, name⟩).dropLast =
        (ns ++ [':', ':', 'd', 'd', 's', '_', ':']) ++ ':' :: name := by
      rw [typeNameText, List.dropLast_concat]
      simp
    obtain ⟨after, upto⟩ := split_last_colon (l := ns ++ [':', ':', 'd', 'd', 's', '_', ':']) plain
    have long : (ns ++ [':', ':', 'd', 'd', 's', '_', ':'] ++ [':']).length = ns.length + 8 := by simp
    simp only [readTypeName, text, after, upto]
    rw [long, if_neg (by omega), Nat.add_sub_cancel, List.append_assoc, List.take_left]

/-- **Round trip.** The wire tells an entity apart from all others. -/
theorem RosEntity.readWire_wire {e : RosEntity} (plain : e.PlainTypes) : readWire e.wire = some e := by
  cases e with
  | topic name type =>
    simp only [wire, readWire, readTypeName_text plain]
    rfl
  | service name type =>
    have middle : ((rosRequestPrefix ++ name ++ rosRequestSubfix).drop 2).take
        ((rosRequestPrefix ++ name ++ rosRequestSubfix).length - 9) = name := by
      simp [rosRequestPrefix, rosRequestSubfix]
    simp only [wire, readWire, readTypeName_text plain.1, readTypeName_text plain.2, middle]

/-- Entities share a DDS topic exactly if they are of one sort and have one name. -/
theorem RosEntity.wire_meet (e e' : RosEntity) : (∃ p ∈ e.wire, ∃ q ∈ e'.wire, p.1 = q.1) ↔ e.SameName e' := by
  cases e with
  | topic name type =>
    cases e' with
    | topic name' type' => simp [wire, SameName]
    | service name' type' => simp [wire, SameName, rosTopicPrefix, rosRequestPrefix, rosReplyPrefix]
  | service name type =>
    cases e' with
    | topic name' type' => simp [wire, SameName, rosTopicPrefix, rosRequestPrefix, rosReplyPrefix]
    | service name' type' => simp [wire, SameName, rosRequestPrefix, rosReplyPrefix]

/-! ## What creations announce -/

/-- The DDS topics, with their types, among the names that the creation of one entity announces. -/
def ddsTopics : List CStr → List (CStr × CStr)
  | [topic, type] => [(topic, type)]
  | [_, requestType, replyType, requestTopic, replyTopic] =>
    [(requestTopic, requestType), (replyTopic, replyType)]
  | _ => []

theorem ddsTopics_names (c : Call) : ddsTopics c.names = (c.rosEntity.map RosEntity.wire).getD [] := by
  unfold Call.names
  split
  case h_6 publisher subscription service client =>
    unfold Call.rosEntity
    split
    · exact (publisher _ _ _ _ rfl).elim
    · exact (subscription _ _ _ _ rfl).elim
    · exact (service _ _ _ _ _ rfl).elim
    · exact (client _ _ _ _ _ rfl).elim
    · rfl
  all_goals rfl

/-- The DDS topics of a creation that succeeds are those of its entity, in whatever state it is made. -/
theorem ddsTopics_announced (binary : cfg.useRefs = false) {s : State} {i : Step} (made : Creates cfg s i) :
    ddsTopics (announcedIn cfg s i) = (i.call.rosEntity.map RosEntity.wire).getD [] := by
  rcases step_announces binary made with ⟨name, namespace_, ⟨context, shape⟩, -, announced⟩ | ⟨-, announced⟩
  · rw [announced, shape]
    rfl
  · rw [announced, ddsTopics_names]

/-- **Wire names.** In the binary mode, whatever the names and in whatever states two creations are made: if both
succeed, the names they announce contain a common DDS topic exactly if they create entities of one sort (topic or
service) under one name; and what an entity is called and which message types it has can be read back from its DDS
topics and their types, as long as no message name holds a colon. -/
theorem wire_names (binary : cfg.useRefs = false) {s s' : State} {i i' : Step} (made : Creates cfg s i)
    (made' : Creates cfg s' i') :
    let wire := ddsTopics (announcedIn cfg s i)
    let wire' := ddsTopics (announcedIn cfg s' i')
    ((∃ p ∈ wire, ∃ q ∈ wire', p.1 = q.1) ↔
      ∃ e ∈ i.call.rosEntity, ∃ e' ∈ i'.call.rosEntity, e.SameName e') ∧
      ((∀ e ∈ i.call.rosEntity, e.PlainTypes) → readWire wire = i.call.rosEntity) := by
  intro wire wire'
  have seen : wire = (i.call.rosEntity.map RosEntity.wire).getD [] := ddsTopics_announced binary made
  have seen' : wire' = (i'.call.rosEntity.map RosEntity.wire).getD [] := ddsTopics_announced binary made'
  rw [seen, seen']
  cases entity : i.call.rosEntity with
  | none => exact ⟨by simp, fun _ => rfl⟩
  | some e =>
    refine ⟨?_, fun plain => RosEntity.readWire_wire (plain e rfl)⟩
    cases entity' : i'.call.rosEntity with
    | none => simp
    | some e' =>
      have meet := RosEntity.wire_meet e e'
      simpa using meet

/-- A node. -/
def Small.oneNode : State := run Small.config [Small.init 0, Small.createNode 1]

/-- A publisher and a service of one node do not meet, and the type of the publisher can be read back. -/
theorem wire_names_small :
    let publisher := Small.createPublisher Small.typeSupport
    let service := Small.createServiceOf 1
    let wire := ddsTopics (announcedIn Small.config Small.oneNode publisher)
    let wire' := ddsTopics (announcedIn Small.config Small.oneNode service)
    (¬ ∃ p ∈ wire, ∃ q ∈ wire', p.1 = q.1) ∧ readWire wire = some (.topic ['t'] ⟨none, ['m']⟩) := by
  intro publisher service wire wire'
  have made : Creates Small.config Small.oneNode publisher := ⟨1, by decide +kernel⟩
  have made' : Creates Small.config Small.oneNode service := ⟨1, by decide +kernel⟩
  obtain ⟨meet, back⟩ := wire_names rfl made made'
  refine ⟨fun shared => ?_, back ?_⟩
  · obtain ⟨e, is, e', is', same⟩ := meet.1 shared
    cases is
    cases is'
    exact same
  · rintro e ⟨⟩
    show ':' ∉ ['m']
    decide

end RmwMicroxrcedds
