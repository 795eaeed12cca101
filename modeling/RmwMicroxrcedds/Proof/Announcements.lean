import RmwMicroxrcedds.Proof.SingleEnds
import RmwMicroxrcedds.Proof.Frames
import RmwMicroxrcedds.Spec.Naming

/-!
# What a creation announces

The names in the requests of a run, in the order in which they were sent. Only `run_xrce_session`
sends any. A create function that succeeds in the binary mode has announced the texts the
`generate_*` functions print, all of which it has seen to fit, and for a node what is left of the
text in a buffer it has not looked at.
-/

namespace RmwMicroxrcedds
set_option autoImplicit false

open Triples

variable {cfg : Config} {α β : Type}

/-- The names in a request. -/
def XrceRequest.names : XrceRequest → List CStr
  | .create _ _ texts => texts
  | _ => []

/-- The names announced so far. -/
def State.announced (s : State) : List CStr := s.requests.reverse.flatMap (·.1.names)

/-- Nothing has been asked of the agent. -/
def Silent (s t : State) : Prop := t.requests = s.requests

instance : Std.Refl Silent := ⟨fun _ => rfl⟩

instance : IsTrans State Silent := ⟨fun _ _ _ h k => k.trans h⟩

/-- Since `s₀` the given names have been announced. -/
def Announced (s₀ : State) (l : List CStr) (s : State) : Prop := s.announced = s₀.announced ++ l

theorem Announced.refl (s : State) : Announced s [] s := (List.append_nil _).symm

theorem Announced.stable {s₀ : State} {l : List CStr} (s t : State) (h : Announced s₀ l s)
    (silent : Silent s t) : Announced s₀ l t := by
  rw [Announced, State.announced, silent]
  exact h

/-! ## The silent actions -/

theorem silent_writeElement (k : Kind β) (i : Nat) (f : β → β) : Within Silent (writeElement k i f) :=
  fun _ => rfl

theorem silent_getMemory (k : Kind β) : Within Silent (getMemory k) := fun _ => rfl

theorem silent_postIncrement (context : Nat) (counter : Session → Nat)
    (store : Nat → Session → Session) : Within Silent (postIncrement context counter store) :=
  fun _ => rfl

theorem silent_acquire [Element β] (k : Kind β) (enter : β → β) : Within Silent (acquire k enter) := by
  refine Within.bind (silent_getMemory k) fun slot => ?_
  cases slot with
  | none => exact .pure
  | some i => exact Within.bind (silent_writeElement _ _ _) fun _ => .pure

section Rules

variable {s₀ : State} {l : List CStr}

/-- An action before the rest of a creation. -/
theorem Announced.skip {p : Prog α} {f : α → Prog β} {Q : β → State → Prop} (silent : Within Silent p)
    (next : ∀ a, Hoare (Announced s₀ l) (f a) Q) : Hoare (Announced s₀ l) (p >>= f) Q :=
  Triple.bind (silent.hoare Announced.stable) next

/-- `run_xrce_session` -/
theorem Announced.run (context : Nat) (stream : UxrStreamType) (request : XrceRequest) :
    Hoare (Announced s₀ l) (runXrceSession cfg context stream request)
      fun _ => Announced s₀ (l ++ request.names) := Hoare.of fun s h => by
  have asked := (runXrceSession_spec cfg context stream request s).1.requests
  rw [Announced, State.announced, asked, List.reverse_cons, List.flatMap_append, List.flatMap_singleton]
  have before : s.requests.reverse.flatMap (·.1.names) = s₀.announced ++ l := h
  rw [before, List.append_assoc]

theorem Announced.create (context : Nat) (id parent : UxrObjectId) (texts : List CStr) :
    Hoare (Announced s₀ l) (runCreation cfg context id parent texts)
      fun _ => Announced s₀ (l ++ texts) :=
  Announced.skip (fun _ => rfl) fun _ => Announced.run _ _ _

end Rules

/-! ## Topics, publishers and subscriptions -/

/-- The texts of a topic, with nothing cut off. -/
def fullTopicNames (topicName : CStr) (members : MessageTypeSupportCallbacks) : List CStr :=
  [rosTopicPrefix ++ topicName, typeNameText members]

section Topics

variable {n i : Nat} {name : CStr} {members : MessageTypeSupportCallbacks} {s₀ : State} {l : List CStr}
  (binary : cfg.useRefs = false)

theorem generateTypeName_whole {members : MessageTypeSupportCallbacks} {size : Nat}
    (fits : (generateTypeName members size).1 = true) :
    (generateTypeName members size).2 = typeNameText members :=
  snprintf_whole (of_decide_eq_true fits)

theorem generateTopicName_whole {name : CStr} {size : Nat}
    (fits : (generateTopicName name size).1 = true) :
    (generateTopicName name size).2 = rosTopicPrefix ++ name :=
  snprintf_whole (of_decide_eq_true fits)

include binary

theorem topicRequest_names {id participant : UxrObjectId} {request : XrceRequest}
    (text : topicRequest cfg id participant name members = some request) :
    request.names = fullTopicNames name members := by
  simp only [topicRequest, binary, Bool.false_eq_true, if_false] at text
  split at text
  · rename_i fits
    obtain rfl := Option.some.inj text
    rw [XrceRequest.names, generateTopicName_whole fits.1, generateTypeName_whole fits.2]
    rfl
  · cases text

theorem createTopic_announces :
    Hoare (Announced s₀ l) (createTopic cfg n name members)
      fun topic s => topic.isSome = true → Announced s₀ (l ++ fullTopicNames name members) s := by
  refine Announced.skip (silent_getMemory _) fun slot => ?_
  cases slot with
  | none => exact Triple.pure fun _ _ h => by cases h
  | some x =>
    have body : Hoare (Announced s₀ l) (createTopicBody cfg n name members x) fun created s =>
        created = true → Announced s₀ (l ++ fullTopicNames name members) s := by
      unfold createTopicBody
      refine Announced.skip (silent_writeElement _ _ _) fun _ => ?_
      refine Announced.skip (fun _ => rfl) fun context => ?_
      refine Announced.skip (silent_postIncrement _ _ _) fun id => ?_
      refine Announced.skip (silent_writeElement _ _ _) fun _ => ?_
      refine Announced.skip (fun _ => rfl) fun node => ?_
      dsimp only
      split
      · exact Triple.pure fun _ _ h => by cases h
      · rename_i request text
        refine Announced.skip (fun _ => rfl) fun c => ?_
        refine Triple.weaken (Announced.run _ _ _) fun created s h _ => ?_
        rwa [topicRequest_names binary text] at h
    refine Triple.bind body fun created => Triple.ite (fun made => ?_) fun _ => ?_
    · exact Triple.pure fun s h _ => h made
    · exact Hoare.of fun s _ h => by cases h

theorem endpointTexts_binary (profile : CStr → Nat → Bool × CStr) (topicName : CStr) :
    endpointTexts cfg profile topicName = some [] := by
  rw [endpointTexts, binary]
  rfl

/-- The two objects of an endpoint announce nothing of their own. -/
theorem createObjects_announces [Element β] (two : TwoObjects β) :
    Hoare (Announced s₀ l) (two.create cfg n name i) fun _ => Announced s₀ l := by
  unfold TwoObjects.create
  refine Announced.skip (fun _ => rfl) fun context => ?_
  refine Announced.skip (fun _ => rfl) fun id => ?_
  refine Announced.skip (silent_writeElement _ _ _) fun _ => ?_
  refine Announced.skip (fun _ => rfl) fun node => ?_
  refine Triple.bind (Announced.create _ _ _ _) fun created => ?_
  rw [List.append_nil]
  refine Triple.ite (fun _ => ?_) fun _ => Triple.pure fun _ h => h
  refine Announced.skip (fun _ => rfl) fun inner => ?_
  refine Announced.skip (silent_writeElement _ _ _) fun _ => ?_
  refine Announced.skip (fun _ => rfl) fun _ => ?_
  rw [endpointTexts_binary binary]
  refine Triple.weaken (Announced.create _ _ _ _) fun _ s h => ?_
  rwa [List.append_nil] at h

theorem body_announces [Element β] (two : TwoObjects β)
    (typeSupport : TypeSupport MessageTypeSupportCallbacks) (qosPolicies : RmwQosProfile) :
    Hoare (Announced s₀ l) (two.body cfg n typeSupport name qosPolicies i)
      fun created s => created = true → ∃ members, typeSupport = .callbacks members ∧
        Announced s₀ (l ++ fullTopicNames name members) s := by
  unfold TwoObjects.body
  refine Triple.ite (fun _ => Triple.pure fun _ _ h => by cases h) fun _ => ?_
  refine Announced.skip (silent_writeElement _ _ _) fun _ => ?_
  cases typeSupport with
  | undefined => exact Triple.pure fun _ _ h => by cases h
  | nullData =>
    refine Announced.skip (silent_writeElement _ _ _) fun _ => ?_
    exact Triple.pure fun _ _ h => by cases h
  | callbacks members =>
    refine Announced.skip (silent_writeElement _ _ _) fun _ => ?_
    unfold TwoObjects.createAll
    refine Triple.bind (createTopic_announces binary) fun topic => ?_
    refine Triple.bind (M := fun _ s => topic.isSome = true →
      Announced s₀ (l ++ fullTopicNames name members) s) ?_ fun _ => ?_
    · exact Hoare.of fun s h some => Announced.stable s _ (h some) rfl
    · refine Triple.ite (fun some => ?_) fun _ => Triple.pure fun _ _ h => by cases h
      refine Triple.strengthen (Triple.weaken (createObjects_announces binary two) ?_) fun s h => h some
      exact fun _ s h _ => ⟨members, rfl, h⟩

end Topics

/-! ## Services and clients -/

/-- The texts of a service, with nothing cut off. -/
def fullServiceNames (serviceName : CStr) (members : ServiceTypeSupportCallbacks) : List CStr :=
  [serviceName, typeNameText members.requestMembers, typeNameText members.responseMembers,
    rosRequestPrefix ++ serviceName ++ rosRequestSubfix, rosReplyPrefix ++ serviceName ++ rosReplySubfix]

section Services

variable {n i requestId : Nat} {name : CStr} {s₀ : State} {l : List CStr}
  (binary : cfg.useRefs = false)

theorem generateServiceTopics_whole {name : CStr} {size : Nat}
    (fits : (generateServiceTopics name size).1 = true) :
    (generateServiceTopics name size).2.1 = rosRequestPrefix ++ name ++ rosRequestSubfix ∧
      (generateServiceTopics name size).2.2 = rosReplyPrefix ++ name ++ rosReplySubfix := by
  obtain ⟨request, reply⟩ := of_decide_eq_true fits
  exact ⟨snprintf_whole request, snprintf_whole reply⟩

theorem generateServiceTypes_whole {members : ServiceTypeSupportCallbacks} {size : Nat}
    (fits : (generateServiceTypes members size).1 = true) :
    (generateServiceTypes members size).2.1 = typeNameText members.requestMembers ∧
      (generateServiceTypes members size).2.2 = typeNameText members.responseMembers := by
  obtain ⟨request, reply⟩ := Bool.and_eq_true_iff.1 fits
  exact ⟨generateTypeName_whole request, generateTypeName_whole reply⟩

include binary

theorem serviceTexts_whole {id : UxrObjectId} {requester : Bool} {members : ServiceTypeSupportCallbacks}
    {qosPolicies : RmwQosProfile} {texts : List CStr}
    (text : serviceTexts cfg id name requester members qosPolicies = some texts) :
    texts = fullServiceNames name members := by
  simp only [serviceTexts, binary, Bool.false_eq_true, if_false] at text
  split at text
  · rename_i fits
    obtain ⟨requestType, replyType⟩ := generateServiceTypes_whole fits.1
    obtain ⟨requestTopic, replyTopic⟩ := generateServiceTopics_whole fits.2
    rw [requestType, replyType, requestTopic, replyTopic] at text
    exact (Option.some.inj text).symm
  · cases text

theorem serviceBody_announces [Element β] (one : OneObject β)
    (typeSupport : TypeSupport ServiceTypeSupportCallbacks) (qosPolicies : RmwQosProfile) :
    Hoare (Announced s₀ l) (one.body cfg n typeSupport name qosPolicies requestId i)
      fun created s => created = true → ∃ members, typeSupport = .callbacks members ∧
        Announced s₀ (l ++ fullServiceNames name members) s := by
  unfold OneObject.body
  refine Triple.ite (fun _ => Triple.pure fun _ _ h => by cases h) fun _ => ?_
  refine Announced.skip (silent_writeElement _ _ _) fun _ => ?_
  cases typeSupport with
  | undefined => exact Triple.pure fun _ _ h => by cases h
  | nullData =>
    refine Announced.skip (silent_writeElement _ _ _) fun _ => ?_
    exact Triple.pure fun _ _ h => by cases h
  | callbacks members =>
    refine Announced.skip (silent_writeElement _ _ _) fun _ => ?_
    unfold OneObject.create
    refine Announced.skip (fun _ => rfl) fun context => ?_
    refine Announced.skip (fun _ => rfl) fun id => ?_
    refine Announced.skip (silent_writeElement _ _ _) fun _ => ?_
    refine Announced.skip (fun _ => rfl) fun node => ?_
    dsimp only
    split
    · exact Triple.pure fun _ _ h => by cases h
    · rename_i texts text
      rw [serviceTexts_whole binary text]
      refine Triple.bind (Announced.create _ _ _ _) fun created => Triple.ite (fun _ => ?_) fun _ => ?_
      · refine Announced.skip (silent_writeElement _ _ _) fun _ => ?_
        refine Announced.skip (fun _ => rfl) fun _ => ?_
        exact Triple.pure fun s h _ => ⟨members, rfl, h⟩
      · exact Triple.pure fun _ _ h => by cases h

end Services

/-! ## Calls -/

/-- The name of a participant, with nothing cut off. -/
def participantName (name namespace_ : CStr) : CStr :=
  if namespace_ = ['/'] then name else namespace_ ++ '/' :: name

/-- The names a creation is to announce. -/
def Call.names : Call → List CStr
  | .createNode _ (some name) (some namespace_) => [participantName name namespace_]
  | .createPublisher _ (some (.callbacks members)) (some topicName) _ => fullTopicNames topicName members
  | .createSubscription _ (some (.callbacks members)) (some topicName) _ =>
    fullTopicNames topicName members
  | .createService _ (some (.callbacks members)) (some serviceName) _ _ =>
    fullServiceNames serviceName members
  | .createClient _ (some (.callbacks members)) (some serviceName) _ _ =>
    fullServiceNames serviceName members
  | _ => []

section Calls

variable {s₀ : State} {node : Nat} {name : CStr}

/-- The create functions of endpoints and services after the check of their arguments. -/
theorem checked_announces [Element β] (k : Kind β) (body : Nat → Nat → Prog Bool)
    (fail : Nat → Prog Unit) {P : State → Prop}
    (makes : ∀ n i, Hoare (Announced s₀ []) (body n i) fun created s => created = true → P s) :
    Hoare (Announced s₀ [])
      (do
        let handle := (← readElement .node node).rmwNode
        if isUxrceRmwIdentifierValid handle.implementationIdentifier = false ∨ name = [] then
          return none
        else
          match ← acquire k id with
          | none => return none
          | some i =>
            if ← body (deref handle.data) i then return some i
            else
              fail i
              return none : Prog (Option Nat))
      fun created s => created.isSome = true → P s := by
  refine Announced.skip (fun _ => rfl) fun n => ?_
  refine Triple.ite (fun _ => Triple.pure fun _ _ h => by cases h) fun _ => ?_
  refine Announced.skip (silent_acquire _ _) fun slot => ?_
  cases slot with
  | none => exact Triple.pure fun _ _ h => by cases h
  | some i =>
    refine Triple.bind (makes _ i) fun created => Triple.ite (fun made => ?_) fun _ => ?_
    · exact Triple.pure fun s h _ => h made
    · exact Hoare.of fun s _ h => by cases h

/-- A node's name as it is left by a bounded write. -/
theorem createNode_announces (binary : cfg.useRefs = false) (name namespace_ : CStr)
    (context : Option Nat) :
    Hoare (Announced s₀ []) (createNode cfg name namespace_ context)
      fun created s => created.isSome = true → name.length < cfg.nodeNameMaxLength ∧
        Announced s₀ [(snprintf cfg.nodeNameMaxLength (participantName name namespace_)).1] s := by
  have text : participantText cfg name namespace_ =
      some (snprintf cfg.nodeNameMaxLength (participantName name namespace_)).1 := by
    simp only [participantText, binary, Bool.false_eq_true, if_false, participantName,
      List.append_assoc, List.singleton_append]
  unfold createNode
  refine Announced.skip (silent_acquire _ _) fun slot => ?_
  cases slot with
  | none => exact Triple.pure fun _ _ h => by cases h
  | some i =>
    refine Triple.ite (fun _ => Hoare.of fun s _ h => by cases h) fun short => ?_
    refine Announced.skip (silent_writeElement _ _ _) fun _ => ?_
    refine Triple.ite (fun _ => Hoare.of fun s _ h => by cases h) fun _ => ?_
    refine Announced.skip (silent_writeElement _ _ _) fun _ => ?_
    refine Announced.skip (silent_postIncrement _ _ _) fun id => ?_
    refine Announced.skip (silent_writeElement _ _ _) fun _ => ?_
    rw [text]
    refine Announced.skip (fun _ => rfl) fun c => ?_
    refine Triple.bind (Announced.run _ _ _) fun created => Triple.ite (fun _ => ?_) fun _ => ?_
    · exact Triple.pure fun s h _ => ⟨by omega, h⟩
    · exact Hoare.of fun s _ h => by cases h

variable (binary : cfg.useRefs = false)
include binary

theorem rmwCreatePublisher_announces (node : Option Nat)
    (typeSupport : Option (TypeSupport MessageTypeSupportCallbacks)) (topicName : Option CStr)
    (qosPolicies : Option RmwQosProfile) :
    Hoare (Announced s₀ []) (rmwCreatePublisher cfg node typeSupport topicName qosPolicies)
      fun created s => created.isSome = true →
        Announced s₀ (Call.names (.createPublisher node typeSupport topicName qosPolicies)) s := by
  unfold rmwCreatePublisher
  split
  · rename_i n t name qos
    simp only [createPublisherFail_eq, createPublisherBody_eq]
    refine checked_announces .publisher (fun n => TwoObjects.publisher.body cfg n t name qos)
      TwoObjects.publisher.ep.fail fun n i => ?_
    refine Triple.weaken (body_announces binary .publisher t qos) fun created s h made => ?_
    obtain ⟨members, rfl, announced⟩ := h made
    exact announced
  · exact Triple.pure fun _ _ h => by cases h

theorem rmwCreateSubscription_announces (node : Option Nat)
    (typeSupport : Option (TypeSupport MessageTypeSupportCallbacks)) (topicName : Option CStr)
    (qosPolicies : Option RmwQosProfile) :
    Hoare (Announced s₀ []) (rmwCreateSubscription cfg node typeSupport topicName qosPolicies)
      fun created s => created.isSome = true →
        Announced s₀ (Call.names (.createSubscription node typeSupport topicName qosPolicies)) s := by
  unfold rmwCreateSubscription
  split
  · rename_i n t name qos
    simp only [createSubscriptionFail_eq, createSubscriptionBody_eq]
    refine checked_announces .subscription (fun n => TwoObjects.subscription.body cfg n t name qos)
      TwoObjects.subscription.ep.fail fun n i => ?_
    refine Triple.weaken (body_announces binary .subscription t qos) fun created s h made => ?_
    obtain ⟨members, rfl, announced⟩ := h made
    exact announced
  · exact Triple.pure fun _ _ h => by cases h

theorem rmwCreateService_announces (node : Option Nat)
    (typeSupport : Option (TypeSupport ServiceTypeSupportCallbacks)) (serviceName : Option CStr)
    (qosPolicies : Option RmwQosProfile) (requestId : Nat) :
    Hoare (Announced s₀ []) (rmwCreateService cfg node typeSupport serviceName qosPolicies requestId)
      fun created s => created.isSome = true → Announced s₀
        (Call.names (.createService node typeSupport serviceName qosPolicies requestId)) s := by
  unfold rmwCreateService
  split
  · rename_i n t name qos
    simp only [createServiceBody_eq]
    refine checked_announces .service (fun n => OneObject.service.body cfg n t name qos requestId)
      (finiMemory .service id) fun n i => ?_
    refine Triple.weaken (serviceBody_announces binary .service t qos) fun created s h made => ?_
    obtain ⟨members, rfl, announced⟩ := h made
    exact announced
  · exact Triple.pure fun _ _ h => by cases h

theorem rmwCreateClient_announces (node : Option Nat)
    (typeSupport : Option (TypeSupport ServiceTypeSupportCallbacks)) (serviceName : Option CStr)
    (qosPolicies : Option RmwQosProfile) (requestId : Nat) :
    Hoare (Announced s₀ []) (rmwCreateClient cfg node typeSupport serviceName qosPolicies requestId)
      fun created s => created.isSome = true → Announced s₀
        (Call.names (.createClient node typeSupport serviceName qosPolicies requestId)) s := by
  unfold rmwCreateClient
  split
  · rename_i n t name qos
    simp only [createClientBody_eq]
    refine checked_announces .client (fun n => OneObject.client.body cfg n t name qos requestId)
      (finiMemory .client id) fun n i => ?_
    refine Triple.weaken (serviceBody_announces binary .client t qos) fun created s h made => ?_
    obtain ⟨members, rfl, announced⟩ := h made
    exact announced
  · exact Triple.pure fun _ _ h => by cases h

end Calls

end RmwMicroxrcedds
