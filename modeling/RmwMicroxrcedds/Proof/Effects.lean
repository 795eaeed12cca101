import RmwMicroxrcedds.Proof.CalmCalls

/-!
# What the destroy functions do to the entities

Running a session never touches the entities, so the effect of a destroy function on them is a
plain function of the pools.
-/

namespace RmwMicroxrcedds
set_option autoImplicit false

variable {cfg : Config} {α β : Type}

/-! ## Session runs -/

theorem receive_ent (w : World) (o : Owner) (qos : RmwQosProfile) (type : EntityType)
    (related : Option Related) (ub : List UInt8) (length : Nat) :
    (receive w o qos type related ub length).1.ent = w.ent := by
  unfold receive
  split
  · rfl
  · dsimp only
    split <;> rfl

/-- No callback touches the entities. -/
theorem callback_ent (cfg : Config) (session : Nat) (ev : SessionEvent) (w : World) :
    (callback cfg session ev w).1.ent = w.ent := by
  cases ev with
  | time d => rfl
  | topic objectId ub length =>
    simp only [callback, onTopic]
    split
    · rfl
    · split
      · rfl
      · exact receive_ent ..
  | request requestId sampleId ub length =>
    simp only [callback, onRequest]
    split
    · rfl
    · exact receive_ent ..
  | reply requestId replyId ub length =>
    simp only [callback, onReply]
    split
    · rfl
    · exact receive_ent ..

/-- What a session run leaves as it is. -/
structure EntFrame (s t : State) : Prop where
  ent : t.w.ent = s.w.ent
  incarnation : t.ghost.incarnation = s.ghost.incarnation
  givenIn : t.ghost.givenIn = s.ghost.givenIn
  epoch : t.ghost.epoch = s.ghost.epoch
  call : t.call = s.call

theorem EntFrame.refl (s : State) : EntFrame s s := ⟨rfl, rfl, rfl, rfl, rfl⟩

theorem EntFrame.trans {s t u : State} (h : EntFrame s t) (k : EntFrame t u) : EntFrame s u :=
  ⟨k.ent.trans h.ent, k.incarnation.trans h.incarnation, k.givenIn.trans h.givenIn,
    k.epoch.trans h.epoch, k.call.trans h.call⟩

theorem raise_frame (cfg : Config) (session : Nat) (s : State) (ev : SessionEvent) :
    EntFrame s (raise cfg session s ev) := by
  by_cases route : ev.route = none
  · cases ev with
    | time d => exact ⟨rfl, rfl, rfl, rfl, rfl⟩
    | _ => simp [SessionEvent.route] at route
  · rw [raise_eq s session route]
    exact ⟨callback_ent .., rfl, rfl, rfl, rfl⟩

theorem raise_foldl_frame (cfg : Config) (session : Nat) (evs : List SessionEvent) (s : State) :
    EntFrame s (evs.foldl (raise cfg session) s) := by
  induction evs generalizing s with
  | nil => exact .refl s
  | cons ev evs ih => exact (raise_frame cfg session s ev).trans (ih _)

/-- So a run of a session leaves them as they are, -/
theorem uxrRunSession_frame (cfg : Config) (session : Nat) (s : State) :
    EntFrame s (uxrRunSession cfg session s).2 := by
  have answer : EntFrame s (nextAnswer s).2 := by
    cases h : s.agent with
    | nil =>
      simp only [nextAnswer, bind, StateT.bind, get, getThe, MonadStateOf.get, StateT.get, pure, h]
      exact .refl s
    | cons a rest =>
      simp only [nextAnswer, bind, StateT.bind, get, getThe, MonadStateOf.get, StateT.get, pure, h]
      exact ⟨rfl, rfl, rfl, rfl, rfl⟩
  exact answer.trans (raise_foldl_frame cfg session (nextAnswer s).1.events _)

/-- and a request to the agent does, whatever is answered. -/
theorem runXrceSession_frame (cfg : Config) (context : Nat) (stream : UxrStreamType) (request : XrceRequest)
    (s : State) : EntFrame s (runXrceSession cfg context stream request s).2 := by
  by_cases h : stream = .bestEffort
  · simp only [runXrceSession, h, if_true]
    exact ⟨rfl, rfl, rfl, rfl, rfl⟩
  · simp only [runXrceSession, h, if_false]
    have first := uxrRunSession_frame cfg context s
    exact ⟨first.ent, first.incarnation, first.givenIn, first.epoch, first.call⟩

theorem runDestruction_frame (cfg : Config) (context : Nat) (request : XrceRequest) (s : State) :
    EntFrame s (runDestruction cfg context request s).2 := runXrceSession_frame ..

theorem runCreation_frame (cfg : Config) (context : Nat) (id parent : UxrObjectId) (texts : List CStr) (s : State) :
    EntFrame s (runCreation cfg context id parent texts s).2 := runXrceSession_frame ..

theorem flushLoop_ent (k : Nat) (item : Option Nat) (s : State) :
    (flushLoop k item s).w.ent = s.w.ent := by
  induction k generalizing item s with
  | zero => rfl
  | succ k ih =>
    cases item with
    | none => rfl
    | some item => exact ih _ _

/-! ## The destroy functions -/

/-- The entities are changed by `f`, and no history variable about them moves. -/
structure Effect (f : Entities → Entities) (s t : State) : Prop where
  ent : t.w.ent = f s.w.ent
  incarnation : t.ghost.incarnation = s.ghost.incarnation
  givenIn : t.ghost.givenIn = s.ghost.givenIn
  epoch : t.ghost.epoch = s.ghost.epoch
  call : t.call = s.call

theorem EntFrame.effect {s t : State} (h : EntFrame s t) : Effect id s t :=
  ⟨h.ent, h.incarnation, h.givenIn, h.epoch, h.call⟩

theorem Effect.trans {f g : Entities → Entities} {s t u : State} (h : Effect f s t)
    (k : Effect g t u) : Effect (g ∘ f) s u :=
  ⟨by rw [k.ent, h.ent]; rfl, k.incarnation.trans h.incarnation, k.givenIn.trans h.givenIn,
    k.epoch.trans h.epoch, k.call.trans h.call⟩

/-- A session run between two effects. -/
theorem Effect.frame {f : Entities → Entities} {s t u : State} (h : Effect f s t)
    (k : EntFrame t u) : Effect f s u := h.trans k.effect

theorem EntFrame.trans_effect {f : Entities → Entities} {s t u : State} (h : EntFrame s t)
    (k : Effect f t u) : Effect f s u := h.effect.trans k

/-- The release of a topic. -/
def Slots.finiTopic (t : Slots Topic) (topic : Nat) : Slots Topic :=
  (t.put topic).update topic fun t => { t with ownerNode := none }

/-- The topics after `rmw_uxrce_fini_topic_memory`. -/
def finiTopic (topic : Nat) (e : Entities) : Entities := { e with topic := e.topic.finiTopic topic }

theorem rmwUxrceFiniTopicMemory_effect (topic : Nat) (s : State) :
    Effect (finiTopic topic) s (rmwUxrceFiniTopicMemory topic s).2 := ⟨rfl, rfl, rfl, rfl, rfl⟩

/-- The topics after `destroy_topic`. -/
def destroyedTopic (topic : Nat) (e : Entities) : Entities :=
  if (e.topic.custom topic).ownerNode = none then e else finiTopic topic e

/-- `destroy_topic` releases the topic unless it has been released before. -/
theorem destroyTopic_effect (cfg : Config) (topic : Nat) (s : State) :
    Effect (destroyedTopic topic) s (destroyTopic cfg topic s).2 := by
  rw [destroyTopic, Prog.bind_run, readElement_run]
  dsimp only
  cases h : (s.w.ent.topic.custom topic).ownerNode with
  | none =>
    have e : (Kind.topic.slots s.w.ent).custom topic = s.w.ent.topic.custom topic := rfl
    rw [e, h]
    exact ⟨by rw [destroyedTopic, if_pos h]; rfl, rfl, rfl, rfl, rfl⟩
  | some customNode =>
    have e : (Kind.topic.slots s.w.ent).custom topic = s.w.ent.topic.custom topic := rfl
    rw [e, h]
    have run := runXrceSession_frame cfg (contextOf customNode s).1
      (s.w.ent.session.custom (contextOf customNode s).1).destroyStream
      (.deleteEntity (s.w.ent.topic.custom topic).topicId) s
    have effect := run.trans_effect (rmwUxrceFiniTopicMemory_effect topic _)
    have same : destroyedTopic topic s.w.ent = finiTopic topic s.w.ent := by
      rw [destroyedTopic, if_neg (by simp [h])]
    exact ⟨effect.ent.trans same.symm, effect.incarnation, effect.givenIn, effect.epoch, effect.call⟩

/-- The checks pass for a node and an entity in use. -/
theorem destroyChecks_some [Element β] (k : Kind β) {s : State} (nodes : Handles s.w.ent.node)
    (hs : Handles (k.slots s.w.ent)) {node i : Nat} (hn : node ∈ s.w.ent.node.elements)
    (hi : i ∈ (k.slots s.w.ent).elements) :
    destroyChecks k (some node) (some i) s = (some (node, i), s) := by
  have nodeHandle : ((Kind.node.slots s.w.ent).custom node).rmwNode =
      ⟨some .eprosimaMicroxrcedds, some node⟩ := nodes.of_mem hn
  have handle := hs.of_mem hi
  rw [destroyChecks, Prog.bind_run, readElement_run, Prog.bind_run, readElement_run]
  simp only [nodeHandle, handle, isUxrceRmwIdentifierValid, BEq.rfl, and_self, if_true]
  rfl

/-- The checks fail for everything else. -/
theorem destroyChecks_none [Element β] (k : Kind β) {s : State} (nodes : Handles s.w.ent.node)
    (hs : Handles (k.slots s.w.ent)) {node entity : Option Nat}
    (h : ¬ ∃ n i, node = some n ∧ entity = some i ∧ n ∈ s.w.ent.node.elements ∧
      i ∈ (k.slots s.w.ent).elements) : destroyChecks k node entity s = (none, s) := by
  unfold destroyChecks
  split
  · rename_i n i
    rw [Prog.bind_run, readElement_run, Prog.bind_run, readElement_run, if_neg]
    · rfl
    · rintro ⟨hn, hi⟩
      exact h ⟨n, i, rfl, rfl, nodes.valid hn, hs.valid hi⟩
  · rfl

/-- The release of an element in use. -/
theorem finiMemory_effect [Element β] (k : Kind β) (clear : β → β) {s : State} {i : Nat}
    (hs : Handles (k.slots s.w.ent)) (h : i ∈ (k.slots s.w.ent).elements) :
    Effect (fun e => k.withSlots ((k.slots e).fini clear i) e) s (finiMemory k clear i s).2 := by
  rw [finiMemory_of_mem k clear hs h]
  cases ho : k.owner i <;> simp only [Kind.released, ho] <;> exact ⟨rfl, rfl, rfl, rfl, rfl⟩

/-- The entities after `rmw_destroy_publisher`. -/
def destroyedPublisher (i : Nat) (e : Entities) : Entities :=
  { destroyedTopic (deref (e.publisher.custom i).topic) e with publisher := e.publisher.fini id i }

theorem destroyedTopic_publisher (topic : Nat) (e : Entities) :
    (destroyedTopic topic e).publisher = e.publisher := by
  unfold destroyedTopic
  split <;> rfl

theorem destroyedTopic_subscription (topic : Nat) (e : Entities) :
    (destroyedTopic topic e).subscription = e.subscription := by
  unfold destroyedTopic
  split <;> rfl

/-- **`rmw_destroy_publisher`** on a node and a publisher in use releases the publisher and its topic. -/
theorem rmwDestroyPublisher_effect {s : State} (wf : Wf cfg s) {node i : Nat}
    (hn : node ∈ s.w.ent.node.elements) (hi : i ∈ s.w.ent.publisher.elements) :
    Effect (destroyedPublisher i) s (rmwDestroyPublisher cfg (some node) (some i) s).2 ∧
      (rmwDestroyPublisher cfg (some node) (some i) s).1 ≠ .error := by
  rw [rmwDestroyPublisher, Prog.bind_run,
    destroyChecks_some .publisher wf.nodeHandles wf.publisherHandles hn hi]
  dsimp only
  rw [Prog.bind_run, readElement_run]
  dsimp only
  set p : Publisher := (Kind.publisher.slots s.w.ent).custom i
  rw [Prog.bind_run]
  set context := (contextOf (deref p.ownerNode) s).1
  have same : (contextOf (deref p.ownerNode) s).2 = s := rfl
  rw [same, Prog.bind_run]
  have topic := destroyTopic_effect cfg (deref p.topic) s
  set s₁ := (destroyTopic cfg (deref p.topic) s).2
  rw [Prog.bind_run]
  have writer := runDestruction_frame cfg context (.deleteEntity p.datawriterId) s₁
  set s₂ := (runDestruction cfg context (.deleteEntity p.datawriterId) s₁).2
  rw [Prog.bind_run]
  have ret := runDestruction_frame cfg context (.deleteEntity p.publisherId) s₂
  set s₃ := (runDestruction cfg context (.deleteEntity p.publisherId) s₂).2
  have before := (topic.frame writer).frame ret
  have pubs : s₃.w.ent.publisher = s.w.ent.publisher := by
    rw [before.ent, destroyedTopic_publisher]
  have handles : Handles s₃.w.ent.publisher := pubs ▸ wf.publisherHandles
  have inUse : i ∈ s₃.w.ent.publisher.elements := pubs ▸ hi
  have fini : Effect _ s₃ (rmwUxrceFiniPublisherMemory i s₃).2 :=
    finiMemory_effect .publisher id handles inUse
  have all := before.trans fini
  rw [Prog.bind_run, Prog.pure_run]
  refine ⟨⟨all.ent.trans ?_, all.incarnation, all.givenIn, all.epoch, all.call⟩, ?_⟩
  · simp only [Function.comp, destroyedPublisher, Kind.publisher, destroyedTopic_publisher]
    rfl
  · dsimp only
    split <;> simp

/-- The entities after `rmw_destroy_subscription`. -/
def destroyedSubscription (i : Nat) (e : Entities) : Entities :=
  { destroyedTopic (deref (e.subscription.custom i).topic) e with
    subscription := e.subscription.fini id i }

/-- **`rmw_destroy_subscription`** does the same for a subscription, -/
theorem rmwDestroySubscription_effect {s : State} (wf : Wf cfg s) {node i : Nat}
    (hn : node ∈ s.w.ent.node.elements) (hi : i ∈ s.w.ent.subscription.elements) :
    Effect (destroyedSubscription i) s (rmwDestroySubscription cfg (some node) (some i) s).2 ∧
      (rmwDestroySubscription cfg (some node) (some i) s).1 ≠ .error := by
  rw [rmwDestroySubscription, Prog.bind_run,
    destroyChecks_some .subscription wf.nodeHandles wf.subscriptionHandles hn hi]
  dsimp only
  rw [Prog.bind_run, readElement_run]
  dsimp only
  set p : Subscription := (Kind.subscription.slots s.w.ent).custom i
  rw [Prog.bind_run]
  set context := (contextOf (deref p.ownerNode) s).1
  have same : (contextOf (deref p.ownerNode) s).2 = s := rfl
  rw [same, Prog.bind_run]
  have cancel := runDestruction_frame cfg context (.cancelData p.datareaderId) s
  set s₀ := (runDestruction cfg context (.cancelData p.datareaderId) s).2
  rw [Prog.bind_run]
  have topic := destroyTopic_effect cfg (deref p.topic) s₀
  set s₁ := (destroyTopic cfg (deref p.topic) s₀).2
  rw [Prog.bind_run]
  have reader := runDestruction_frame cfg context (.deleteEntity p.datareaderId) s₁
  set s₂ := (runDestruction cfg context (.deleteEntity p.datareaderId) s₁).2
  rw [Prog.bind_run]
  have ret := runDestruction_frame cfg context (.deleteEntity p.subscriberId) s₂
  set s₃ := (runDestruction cfg context (.deleteEntity p.subscriberId) s₂).2
  have before := ((cancel.trans_effect topic).frame reader).frame ret
  have subs : s₃.w.ent.subscription = s.w.ent.subscription := by
    rw [before.ent, destroyedTopic_subscription]
  have handles : Handles s₃.w.ent.subscription := subs ▸ wf.subscriptionHandles
  have inUse : i ∈ s₃.w.ent.subscription.elements := subs ▸ hi
  have fini : Effect _ s₃ (rmwUxrceFiniSubscriptionMemory i s₃).2 :=
    finiMemory_effect .subscription id handles inUse
  have all := before.trans fini
  rw [Prog.bind_run, Prog.pure_run]
  refine ⟨⟨all.ent.trans ?_, all.incarnation, all.givenIn, all.epoch, all.call⟩, ?_⟩
  · simp only [Function.comp, destroyedSubscription, Kind.subscription, destroyedTopic_subscription]
    rfl
  · dsimp only
    split <;> simp

/-- and the destroy functions of services -/
theorem rmwDestroyService_effect {s : State} (wf : Wf cfg s) {node i : Nat}
    (hn : node ∈ s.w.ent.node.elements) (hi : i ∈ s.w.ent.service.elements) :
    Effect (fun e => { e with service := e.service.fini id i }) s
        (rmwDestroyService cfg (some node) (some i) s).2 ∧
      (rmwDestroyService cfg (some node) (some i) s).1 ≠ .error := by
  rw [rmwDestroyService, Prog.bind_run,
    destroyChecks_some .service wf.nodeHandles wf.serviceHandles hn hi]
  dsimp only
  rw [Prog.bind_run, readElement_run]
  dsimp only
  set p : Service := (Kind.service.slots s.w.ent).custom i
  rw [Prog.bind_run]
  set context := (contextOf node s).1
  have same : (contextOf node s).2 = s := rfl
  rw [same, Prog.bind_run]
  have cancel := runDestruction_frame cfg context (.cancelData p.serviceId) s
  set s₁ := (runDestruction cfg context (.cancelData p.serviceId) s).2
  rw [Prog.bind_run]
  have ret := runDestruction_frame cfg context (.deleteEntity p.serviceId) s₁
  set s₂ := (runDestruction cfg context (.deleteEntity p.serviceId) s₁).2
  have before := cancel.trans ret
  have services : s₂.w.ent.service = s.w.ent.service := by rw [before.ent]
  have handles : Handles s₂.w.ent.service := services ▸ wf.serviceHandles
  have inUse : i ∈ s₂.w.ent.service.elements := services ▸ hi
  have fini : Effect _ s₂ (rmwUxrceFiniServiceMemory i s₂).2 :=
    finiMemory_effect .service id handles inUse
  rw [Prog.bind_run, Prog.pure_run]
  refine ⟨before.trans_effect fini, ?_⟩
  dsimp only
  split <;> simp

/-- and clients release what they are given. -/
theorem rmwDestroyClient_effect {s : State} (wf : Wf cfg s) {node i : Nat}
    (hn : node ∈ s.w.ent.node.elements) (hi : i ∈ s.w.ent.client.elements) :
    Effect (fun e => { e with client := e.client.fini id i }) s
        (rmwDestroyClient cfg (some node) (some i) s).2 ∧
      (rmwDestroyClient cfg (some node) (some i) s).1 ≠ .error := by
  rw [rmwDestroyClient, Prog.bind_run,
    destroyChecks_some .client wf.nodeHandles wf.clientHandles hn hi]
  dsimp only
  rw [Prog.bind_run, readElement_run]
  dsimp only
  set p : Client := (Kind.client.slots s.w.ent).custom i
  rw [Prog.bind_run]
  set context := (contextOf node s).1
  have same : (contextOf node s).2 = s := rfl
  rw [same, Prog.bind_run]
  have cancel := runDestruction_frame cfg context (.cancelData p.clientId) s
  set s₁ := (runDestruction cfg context (.cancelData p.clientId) s).2
  rw [Prog.bind_run]
  have ret := runDestruction_frame cfg context (.deleteEntity p.clientId) s₁
  set s₂ := (runDestruction cfg context (.deleteEntity p.clientId) s₁).2
  have before := cancel.trans ret
  have clients : s₂.w.ent.client = s.w.ent.client := by rw [before.ent]
  have handles : Handles s₂.w.ent.client := clients ▸ wf.clientHandles
  have inUse : i ∈ s₂.w.ent.client.elements := clients ▸ hi
  have fini : Effect _ s₂ (rmwUxrceFiniClientMemory i s₂).2 :=
    finiMemory_effect .client id handles inUse
  rw [Prog.bind_run, Prog.pure_run]
  refine ⟨before.trans_effect fini, ?_⟩
  dsimp only
  split <;> simp

end RmwMicroxrcedds
