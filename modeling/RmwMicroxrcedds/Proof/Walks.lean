import RmwMicroxrcedds.Proof.Calm

/-!
# The calls, walked through once

A relation between states that is reflexive and transitive is kept by a call if it is kept by the actions the call
is made of. Here these actions are named call by call, so that a property of all calls is one of the actions: which
pools a call works on, which fields of a session it writes, and whether it asks anything of the agent.
-/

namespace RmwMicroxrcedds
set_option autoImplicit false

open Triples

variable {cfg : Config} {α β : Type}

/-- Runs of the sessions keep the relation, and so do the notes that a wait takes of them. -/
class RunsSessions (cfg : Config) (R : State → State → Prop) : Prop where
  ran (session : Nat) : Within R (uxrRunSession cfg session)
  waited (c : Nat) (untilData : Bool) (timeout : Int) :
    Within R (modify (·.record (.waited c untilData timeout)) : Prog Unit)

/-- Requests to the agent keep it as well. -/
class SendsRequests (cfg : Config) (R : State → State → Prop) : Prop extends RunsSessions cfg R where
  asked (context : Nat) (stream : UxrStreamType) (request : XrceRequest) :
    Within R (runXrceSession cfg context stream request)

variable {R : State → State → Prop} [Std.Refl R] [IsTrans State R]

/-! ## Reads and loops -/

omit [IsTrans State R] in
theorem walk_readElement (k : Kind β) (i : Nat) : Within R (readElement k i) := fun s => Std.Refl.refl s

omit [IsTrans State R] in
theorem walk_contextOf (node : Nat) : Within R (contextOf node) := fun s => Std.Refl.refl s

/-- A loop keeps what its body keeps. -/
theorem walk_forM {l : List α} {body : α → Prog PUnit} (h : ∀ a, Within R (body a)) :
    Within R (l.forM body) := by
  induction l with
  | nil => exact Within.pure
  | cons a l ih => exact Within.bind (h a) fun _ => ih

/-- The checks that the destroy functions begin with only read. -/
theorem walk_destroyChecks [Element β] (k : Kind β) (node entity : Option Nat) :
    Within R (destroyChecks k node entity) := by
  unfold destroyChecks
  split
  · refine Within.bind (walk_readElement _ _) fun n => Within.bind (walk_readElement _ _) fun b => ?_
    refine Within.ite ?_ .pure
    split
    · exact .pure
    · exact .pure
  · exact .pure

/-- The loops that destroy what belongs to a node or a context. -/
theorem walk_destroyAll (k : Kind β) (mine : β → Bool) {destroy : Nat → Prog RmwRet} (stop : RmwRet → Bool)
    (ret : RmwRet) (h : ∀ i, Within R (destroy i)) : Within R (destroyAll k mine destroy stop ret) := by
  have loop : ∀ fuel item ret, Within R (destroyLoop k mine destroy stop fuel item ret) := by
    intro fuel
    induction fuel with
    | zero => exact fun _ _ => .pure
    | succ fuel ih =>
      intro item ret
      cases item with
      | none => exact .pure
      | some item =>
        refine Within.get fun s => Within.ite (Within.bind (h _) fun ret => ?_) (ih _ _)
        exact Within.ite .pure (ih _ _)
  exact Within.get fun s => loop _ _ _

/-! ## Takes, waits and guard conditions -/

/-- A take cleans the buffers and releases the one it found. -/
theorem walk_takeFrom [Element β] (cleaned : Within R rmwUxrceCleanExpiredStaticInputBuffer)
    (released : ∀ owner item rv,
      Within R (modify fun s => (s.record (.take owner item rv)).mapBuf (·.putMemory item) : Prog Unit))
    (k : Kind β) (i : Nat) (header : StaticInputBuffer → TakeHeader) (cdrDeserialize : List UInt8 → Bool) :
    Within R (takeFrom k i header cdrDeserialize) := by
  unfold takeFrom
  refine Within.bind (walk_readElement k i) fun b => Within.ite .pure ?_
  unfold takeOldest
  refine Within.bind cleaned fun _ => Within.get fun s => ?_
  dsimp only
  split
  · exact .pure
  · exact Within.bind (released _ _ _) fun _ => .pure

/-- Running the sessions of a wait. -/
theorem walk_runSessions [RunsSessions cfg R] (untilData : Bool) (timeout : Int) (contexts : List Nat) :
    Within R (runSessions cfg untilData timeout contexts) := by
  induction contexts with
  | nil => exact Within.pure
  | cons context rest ih =>
    unfold runSessions
    refine Within.bind (walk_readElement _ _) fun c => ?_
    split
    · refine Within.bind (RunsSessions.waited cfg context untilData timeout) fun _ => ?_
      exact Within.bind (RunsSessions.ran _) fun _ => ih
    · exact ih

/-- Flagging the session of an entity of the wait set. -/
theorem walk_requestRun (flagged : ∀ c, Within R (writeElement .session c fun c => { c with needToBeRan := true }))
    (k : Kind β) (ownerNode : β → Option Nat) (i : Nat) : Within R (requestRun k ownerNode i) :=
  Within.bind (walk_readElement _ _) fun _ => Within.bind (walk_contextOf _) fun _ => flagged _

/-- The part of a wait before it looks for what has arrived. -/
theorem walk_waitSessions [RunsSessions cfg R] (cleaned : Within R rmwUxrceCleanExpiredStaticInputBuffer)
    (flagged : ∀ c needed, Within R (writeElement .session c fun c => { c with needToBeRan := needed }))
    (set : WaitSet Nat) (waitTimeout : Option RmwTime) : Within R (waitSessions cfg set waitTimeout) := by
  have request : ∀ {γ : Type} (k : Kind γ) (ownerNode : γ → Option Nat) (i : Nat),
      Within R (requestRun k ownerNode i) := walk_requestRun fun c => flagged c true
  unfold waitSessions
  refine Within.bind cleaned fun _ => Within.get fun s => ?_
  refine Within.bind (walk_forM fun c => flagged c false) fun _ => ?_
  refine Within.bind (walk_forM fun _ => request _ _ _) fun _ => ?_
  refine Within.bind (walk_forM fun _ => request _ _ _) fun _ => ?_
  refine Within.bind (walk_forM fun _ => request _ _ _) fun _ => Within.get fun s => ?_
  exact Within.ite (walk_runSessions _ _ _) (walk_runSessions _ _ _)

/-- Taking down the guard conditions that are reported. -/
theorem walk_checkGuardConditions
    (lowered : ∀ i, Within R (writeElement .guardCondition i fun g => { g with hasTriggered := false }))
    (entries : List Nat) : Within R (checkGuardConditions entries) := by
  induction entries with
  | nil => exact Within.pure
  | cons i rest ih =>
    unfold checkGuardConditions
    refine Within.bind (walk_readElement _ _) fun g => Within.ite ?_ ?_
    · refine Within.bind (lowered i) fun _ => ?_
      exact Within.bind ih fun _ => .pure
    · exact Within.bind ih fun _ => .pure

/-- **A wait** cleans the buffers, flags and runs sessions and takes down guard conditions. -/
theorem walk_rmwWait [RunsSessions cfg R] (cleaned : Within R rmwUxrceCleanExpiredStaticInputBuffer)
    (flagged : ∀ c needed, Within R (writeElement .session c fun c => { c with needToBeRan := needed }))
    (lowered : ∀ i, Within R (writeElement .guardCondition i fun g => { g with hasTriggered := false }))
    (set : WaitSet Nat) (waitTimeout : Option RmwTime) : Within R (rmwWait cfg set waitTimeout) := by
  unfold rmwWait
  refine Within.ite .pure ?_
  refine Within.bind (walk_waitSessions cleaned flagged set waitTimeout) fun _ => Within.get fun s => ?_
  exact Within.bind (walk_checkGuardConditions lowered _) fun _ => .pure

theorem walk_rmwTriggerGuardCondition
    (raised : ∀ i, Within R (writeElement .guardCondition i fun g => { g with hasTriggered := true }))
    (guardCondition : Option Nat) : Within R (rmwTriggerGuardCondition guardCondition) := by
  unfold rmwTriggerGuardCondition
  cases guardCondition with
  | none => exact .pure
  | some i =>
    refine Within.bind (walk_readElement _ _) fun g => Within.ite ?_ .pure
    exact Within.bind (raised _) fun _ => .pure

theorem walk_rmwCreateGuardCondition (taken : Within R (getMemory .guardCondition))
    (written : ∀ i f, Within R (writeElement .guardCondition i f)) : Within R rmwCreateGuardCondition := by
  refine Within.bind taken fun slot => ?_
  cases slot with
  | none => exact .pure
  | some i => exact Within.bind (written i _) fun _ => .pure

theorem walk_rmwDestroyGuardCondition (given : ∀ i, Within R (putMemory .guardCondition i)) (i : Nat) :
    Within R (rmwDestroyGuardCondition i) :=
  Within.get fun _ => Within.ite (Within.bind (given i) fun _ => .pure) .pure

/-! ## Sends and the clock -/

section Runs

variable [RunsSessions cfg R]

theorem walk_flushSession (context k : Nat) : Within R (flushSession cfg context k) := by
  induction k with
  | zero => exact Within.pure
  | succ k ih => exact Within.bind (RunsSessions.ran _) fun _ => ih

omit [IsTrans State R] in
theorem walk_deliver (context : Nat) (stream : UxrStreamType) : Within R (deliver cfg context stream) :=
  Within.ite .pure (RunsSessions.ran _)

/-- **A publication** runs the session, once or as often as it is flushed. -/
theorem walk_rmwPublish (env : SendEnvironment) (publisher : Option Nat) :
    Within R (rmwPublish cfg env publisher) := by
  unfold rmwPublish
  cases publisher with
  | none => exact .pure
  | some i =>
    refine Within.bind (walk_readElement _ _) fun p => Within.ite ?_ .pure
    cases p.rmwPublisher.data with
    | none => exact .pure
    | some custom =>
      refine Within.bind (walk_readElement _ _) fun _ => Within.bind (walk_contextOf _) fun _ => ?_
      refine Within.bind (walk_flushSession _ _) fun _ => Within.ite ?_ .pure
      exact Within.bind (walk_deliver _ _) fun _ => .pure

/-- Sends of requests and responses. -/
theorem walk_sendOn [Element β] (env : SendEnvironment) (k : Kind β) (ownerNode : β → Option Nat)
    (streamId : β → UxrStreamType) (i : Nat) : Within R (sendOn cfg env k ownerNode streamId i) := by
  unfold sendOn
  refine Within.bind (walk_readElement _ _) fun b => Within.ite .pure ?_
  cases (Element.handle b).data with
  | none => exact .pure
  | some custom =>
    refine Within.bind (walk_readElement _ _) fun _ => Within.bind (walk_contextOf _) fun _ => ?_
    exact Within.ite (Within.bind (walk_deliver _ _) fun _ => .pure) .pure

/-- The synchronisation of a session sets the offset of its clock. -/
theorem walk_rmwUrosSyncSession {offset : Int}
    (synced : ∀ c, Within R (writeElement .session c fun c => { c with timeOffset := offset })) :
    Within R (rmwUrosSyncSession cfg offset) := by
  unfold rmwUrosSyncSession
  refine Within.get fun s => ?_
  dsimp only
  cases s.w.ent.session.memory.allocateditems with
  | none => exact .pure
  | some item =>
    refine Within.bind (RunsSessions.ran _) fun _ => Within.ite ?_ .pure
    exact Within.bind (synced _) fun _ => .pure

end Runs

/-! ## Creations -/

section Requests

variable [SendsRequests cfg R]

theorem walk_runCreation (context : Nat) (id parent : UxrObjectId) (texts : List CStr) :
    Within R (runCreation cfg context id parent texts) :=
  Within.bind (walk_readElement _ _) fun _ => SendsRequests.asked _ _ _

theorem walk_runDestruction (context : Nat) (request : XrceRequest) :
    Within R (runDestruction cfg context request) :=
  Within.bind (walk_readElement _ _) fun _ => SendsRequests.asked _ _ _

omit [SendsRequests cfg R] in
/-- Drawing an id writes the counter of a session. -/
theorem walk_postIncrement (written : ∀ c f, Within R (writeElement .session c f)) (context : Nat)
    (counter : Session → Nat) (store : Nat → Session → Session) :
    Within R (postIncrement context counter store) :=
  Within.bind (walk_readElement _ _) fun _ => Within.bind (written _ _) fun _ => .pure

/-- Topics may be taken, written and released. -/
structure WorksOnTopics (R : State → State → Prop) : Prop where
  get : Within R (getMemory .topic)
  write : ∀ i f, Within R (writeElement .topic i f)
  fini : ∀ i, Within R (rmwUxrceFiniTopicMemory i)

/-- Publishers may be taken, released, and written but for their handles. -/
structure WorksOnPublishers (R : State → State → Prop) : Prop where
  acquire : Within R (acquire .publisher id)
  write : ∀ i f, (∀ b, (f b).rmwPublisher = b.rmwPublisher) → Within R (writeElement .publisher i f)
  fini : ∀ i, Within R (rmwUxrceFiniPublisherMemory i)

section Objects

variable (sessions : ∀ c f, Within R (writeElement .session c f)) {n i : Nat}
include sessions

/-- The two objects of a publisher. -/
theorem walk_createPublisherObjects {topicName : CStr}
    (write : ∀ f : Publisher → Publisher, (∀ b, (f b).rmwPublisher = b.rmwPublisher) →
      (∀ b, (f b).topic = b.topic) → Within R (writeElement .publisher i f)) :
    Within R (createPublisherObjects cfg n topicName i) := by
  unfold createPublisherObjects
  refine Within.bind (walk_contextOf _) fun _ => Within.bind (walk_postIncrement sessions _ _ _) fun _ => ?_
  refine Within.bind (write _ (fun _ => rfl) fun _ => rfl) fun _ => Within.bind (walk_readElement _ _) fun _ => ?_
  refine Within.bind (walk_runCreation _ _ _ _) fun created => Within.ite ?_ .pure
  refine Within.bind (walk_postIncrement sessions _ _ _) fun _ => ?_
  refine Within.bind (write _ (fun _ => rfl) fun _ => rfl) fun _ => ?_
  split
  · exact .pure
  · exact walk_runCreation _ _ _ _

variable (given : ∀ o, Within R (modify (·.mapGhost (·.given o)) : Prog Unit))
include given

/-- The two objects of a subscription, whose id is in place before the second is asked for. -/
theorem walk_createSubscriptionObjects {topicName : CStr}
    (write : ∀ f : Subscription → Subscription, (∀ b, (f b).rmwSubscription = b.rmwSubscription) →
      (∀ b, (f b).topic = b.topic) → Within R (writeElement .subscription i f)) :
    Within R (createSubscriptionObjects cfg n topicName i) := by
  unfold createSubscriptionObjects
  refine Within.bind (walk_contextOf _) fun _ => Within.bind (walk_postIncrement sessions _ _ _) fun _ => ?_
  refine Within.bind (write _ (fun _ => rfl) fun _ => rfl) fun _ => Within.bind (walk_readElement _ _) fun _ => ?_
  refine Within.bind (walk_runCreation _ _ _ _) fun created => Within.ite ?_ .pure
  refine Within.bind (walk_postIncrement sessions _ _ _) fun _ => ?_
  refine Within.bind (write _ (fun _ => rfl) fun _ => rfl) fun _ => Within.bind (given _) fun _ => ?_
  split
  · exact .pure
  · exact walk_runCreation _ _ _ _

variable {typeSupport : TypeSupport ServiceTypeSupportCallbacks} {serviceName : CStr}
  {qosPolicies : RmwQosProfile} {requestId : Nat}

/-- What `rmw_create_service` does with the element it was given. -/
theorem walk_createServiceBody (write : ∀ f : Service → Service, (∀ b, (f b).rmwService = b.rmwService) →
      Within R (writeElement .service i f)) :
    Within R (createServiceBody cfg n typeSupport serviceName qosPolicies requestId i) := by
  unfold createServiceBody
  refine Within.ite .pure (Within.bind (write _ fun _ => rfl) fun _ => ?_)
  cases typeSupport with
  | undefined => exact .pure
  | nullData => exact Within.bind (write _ fun _ => rfl) fun _ => .pure
  | callbacks members =>
    refine Within.bind (write _ fun _ => rfl) fun _ => ?_
    unfold createServiceObject
    refine Within.bind (walk_contextOf _) fun _ => Within.bind (walk_postIncrement sessions _ _ _) fun _ => ?_
    refine Within.bind (write _ fun _ => rfl) fun _ => Within.bind (walk_readElement _ _) fun _ => ?_
    dsimp only
    split
    · exact .pure
    · refine Within.bind (walk_runCreation _ _ _ _) fun created => Within.ite ?_ .pure
      exact Within.bind (write _ fun _ => rfl) fun _ => Within.bind (given _) fun _ => .pure

/-- What `rmw_create_client` does with its own. -/
theorem walk_createClientBody (write : ∀ f : Client → Client, (∀ b, (f b).rmwClient = b.rmwClient) →
      Within R (writeElement .client i f)) :
    Within R (createClientBody cfg n typeSupport serviceName qosPolicies requestId i) := by
  unfold createClientBody
  refine Within.ite .pure (Within.bind (write _ fun _ => rfl) fun _ => ?_)
  cases typeSupport with
  | undefined => exact .pure
  | nullData => exact Within.bind (write _ fun _ => rfl) fun _ => .pure
  | callbacks members =>
    refine Within.bind (write _ fun _ => rfl) fun _ => ?_
    unfold createClientObject
    refine Within.bind (walk_contextOf _) fun _ => Within.bind (walk_postIncrement sessions _ _ _) fun _ => ?_
    refine Within.bind (write _ fun _ => rfl) fun _ => Within.bind (walk_readElement _ _) fun _ => ?_
    dsimp only
    split
    · exact .pure
    · refine Within.bind (walk_runCreation _ _ _ _) fun created => Within.ite ?_ .pure
      exact Within.bind (write _ fun _ => rfl) fun _ => Within.bind (given _) fun _ => .pure

end Objects

section Creations

variable (sessions : ∀ c f, Within R (writeElement .session c f)) (topics : WorksOnTopics R) {n i : Nat}
  {topicName : CStr}
include sessions topics

/-- **`create_topic`** -/
theorem walk_createTopic (members : MessageTypeSupportCallbacks) :
    Within R (createTopic cfg n topicName members) := by
  unfold createTopic
  refine Within.bind topics.get fun slot => ?_
  cases slot with
  | none => exact .pure
  | some topic =>
    refine Within.bind ?_ fun created => Within.ite .pure ?_
    · unfold createTopicBody
      refine Within.bind (topics.write _ _) fun _ => Within.bind (walk_contextOf _) fun _ => ?_
      refine Within.bind (walk_postIncrement sessions _ _ _) fun _ => ?_
      refine Within.bind (topics.write _ _) fun _ => Within.bind (walk_readElement _ _) fun _ => ?_
      dsimp only
      split
      · exact .pure
      · exact Within.bind (walk_readElement _ _) fun _ => SendsRequests.asked _ _ _
    · exact Within.bind (topics.fini topic) fun _ => .pure

variable (publishers : WorksOnPublishers R)
include publishers

/-- What `rmw_create_publisher` does with the element it was given. -/
theorem walk_createPublisherBody (typeSupport : TypeSupport MessageTypeSupportCallbacks)
    (qosPolicies : RmwQosProfile) : Within R (createPublisherBody cfg n typeSupport topicName qosPolicies i) := by
  have write : ∀ f : Publisher → Publisher, (∀ b, (f b).rmwPublisher = b.rmwPublisher) →
      Within R (writeElement .publisher i f) := publishers.write i
  unfold createPublisherBody
  refine Within.ite .pure (Within.bind (write _ fun _ => rfl) fun _ => ?_)
  cases typeSupport with
  | undefined => exact .pure
  | nullData => exact Within.bind (write _ fun _ => rfl) fun _ => .pure
  | callbacks members =>
    refine Within.bind (write _ fun _ => rfl) fun _ => ?_
    refine Within.bind (walk_createTopic sessions topics members) fun topic => ?_
    refine Within.bind (write _ fun _ => rfl) fun _ => Within.ite ?_ .pure
    exact walk_createPublisherObjects sessions fun f keep _ => write f keep

/-- **`rmw_create_publisher`** -/
theorem walk_rmwCreatePublisher (node : Option Nat)
    (typeSupport : Option (TypeSupport MessageTypeSupportCallbacks)) (name : Option CStr)
    (qosPolicies : Option RmwQosProfile) :
    Within R (rmwCreatePublisher cfg node typeSupport name qosPolicies) := by
  unfold rmwCreatePublisher
  split
  · refine Within.bind (walk_readElement _ _) fun _ => Within.ite .pure ?_
    refine Within.bind publishers.acquire fun slot => ?_
    cases slot with
    | none => exact .pure
    | some i =>
      refine Within.bind (walk_createPublisherBody sessions topics publishers _ _) fun created =>
        Within.ite .pure ?_
      refine Within.bind (Within.bind (walk_readElement _ _) fun p => ?_) fun _ => .pure
      dsimp only
      split
      · exact Within.bind (topics.fini _) fun _ => publishers.fini _
      · exact publishers.fini _
  · exact .pure

end Creations

/-! ## Destroy functions -/

section Destructions

/-- **`destroy_topic`** -/
theorem walk_destroyTopic (released : ∀ i, Within R (rmwUxrceFiniTopicMemory i)) (topic : Nat) :
    Within R (destroyTopic cfg topic) := by
  unfold destroyTopic
  refine Within.bind (walk_readElement _ _) fun t => ?_
  cases t.ownerNode with
  | none => exact .pure
  | some customNode =>
    refine Within.bind (walk_contextOf _) fun _ => Within.bind (walk_readElement _ _) fun _ => ?_
    refine Within.bind (SendsRequests.asked _ _ _) fun _ => ?_
    exact Within.bind (released topic) fun _ => .pure

/-- **`rmw_destroy_publisher`** -/
theorem walk_rmwDestroyPublisher (topics : ∀ i, Within R (rmwUxrceFiniTopicMemory i))
    (released : ∀ i, Within R (rmwUxrceFiniPublisherMemory i)) (node publisher : Option Nat) :
    Within R (rmwDestroyPublisher cfg node publisher) := by
  unfold rmwDestroyPublisher
  refine Within.bind (walk_destroyChecks _ _ _) fun checked => ?_
  cases checked with
  | none => exact .pure
  | some r =>
    refine Within.bind (walk_readElement _ _) fun _ => Within.bind (walk_contextOf _) fun _ => ?_
    refine Within.bind (walk_destroyTopic topics _) fun _ => ?_
    refine Within.bind (walk_runDestruction _ _) fun _ => ?_
    refine Within.bind (walk_runDestruction _ _) fun _ => ?_
    exact Within.bind (released _) fun _ => .pure

/-- **`rmw_destroy_subscription`** -/
theorem walk_rmwDestroySubscription (topics : ∀ i, Within R (rmwUxrceFiniTopicMemory i))
    (released : ∀ i, Within R (rmwUxrceFiniSubscriptionMemory i)) (node subscription : Option Nat) :
    Within R (rmwDestroySubscription cfg node subscription) := by
  unfold rmwDestroySubscription
  refine Within.bind (walk_destroyChecks _ _ _) fun checked => ?_
  cases checked with
  | none => exact .pure
  | some r =>
    refine Within.bind (walk_readElement _ _) fun _ => Within.bind (walk_contextOf _) fun _ => ?_
    refine Within.bind (walk_runDestruction _ _) fun _ => ?_
    refine Within.bind (walk_destroyTopic topics _) fun _ => ?_
    refine Within.bind (walk_runDestruction _ _) fun _ => ?_
    refine Within.bind (walk_runDestruction _ _) fun _ => ?_
    exact Within.bind (released _) fun _ => .pure

/-- **`rmw_destroy_service`** -/
theorem walk_rmwDestroyService (released : ∀ i, Within R (rmwUxrceFiniServiceMemory i))
    (node service : Option Nat) : Within R (rmwDestroyService cfg node service) := by
  unfold rmwDestroyService
  refine Within.bind (walk_destroyChecks _ _ _) fun checked => ?_
  cases checked with
  | none => exact .pure
  | some r =>
    refine Within.bind (walk_readElement _ _) fun _ => Within.bind (walk_contextOf _) fun _ => ?_
    refine Within.bind (walk_runDestruction _ _) fun _ => ?_
    refine Within.bind (walk_runDestruction _ _) fun _ => ?_
    exact Within.bind (released _) fun _ => .pure

/-- **`rmw_destroy_client`** -/
theorem walk_rmwDestroyClient (released : ∀ i, Within R (rmwUxrceFiniClientMemory i))
    (node client : Option Nat) : Within R (rmwDestroyClient cfg node client) := by
  unfold rmwDestroyClient
  refine Within.bind (walk_destroyChecks _ _ _) fun checked => ?_
  cases checked with
  | none => exact .pure
  | some r =>
    refine Within.bind (walk_readElement _ _) fun _ => Within.bind (walk_contextOf _) fun _ => ?_
    refine Within.bind (walk_runDestruction _ _) fun _ => ?_
    refine Within.bind (walk_runDestruction _ _) fun _ => ?_
    exact Within.bind (released _) fun _ => .pure

/-- A node and whatever belongs to it may be released. -/
structure Releases (R : State → State → Prop) : Prop where
  node : ∀ i, Within R (rmwUxrceFiniNodeMemory i)
  publisher : ∀ i, Within R (rmwUxrceFiniPublisherMemory i)
  subscription : ∀ i, Within R (rmwUxrceFiniSubscriptionMemory i)
  service : ∀ i, Within R (rmwUxrceFiniServiceMemory i)
  client : ∀ i, Within R (rmwUxrceFiniClientMemory i)
  topic : ∀ i, Within R (rmwUxrceFiniTopicMemory i)

/-- **`rmw_destroy_node`** -/
theorem walk_rmwDestroyNode (releases : Releases R) (node : Option Nat) :
    Within R (rmwDestroyNode cfg node) := by
  unfold rmwDestroyNode
  cases node with
  | none => exact .pure
  | some n =>
    refine Within.bind (walk_readElement _ _) fun _ => Within.ite .pure ?_
    split
    · exact .pure
    · refine Within.bind (walk_destroyAll _ _ _ _ fun _ => ?_) fun _ => Within.ite .pure ?_
      · exact walk_rmwDestroyPublisher releases.topic releases.publisher _ _
      refine Within.bind (walk_destroyAll _ _ _ _ fun _ => ?_) fun _ => Within.ite .pure ?_
      · exact walk_rmwDestroySubscription releases.topic releases.subscription _ _
      refine Within.bind (walk_destroyAll _ _ _ _ fun _ => ?_) fun _ => Within.ite .pure ?_
      · exact walk_rmwDestroyService releases.service _ _
      refine Within.bind (walk_destroyAll _ _ _ _ fun _ => ?_) fun _ => Within.ite .pure ?_
      · exact walk_rmwDestroyClient releases.client _ _
      unfold destroyParticipant
      refine Within.bind (walk_readElement _ _) fun _ => ?_
      refine Within.bind (walk_runDestruction _ _) fun _ => ?_
      exact Within.bind (releases.node _) fun _ => .pure

end Destructions

end Requests

end RmwMicroxrcedds
