import RmwMicroxrcedds.Proof.CreationLedger

/-!
# Creating and destroying publishers and subscriptions

A create function that gets as far as `create_topic` keeps the ledger whatever fails. One that leaves
before releases the topic the slot shows, which an earlier occupant left behind: that is harmless
only if the topic is free and does not head the list of free topics.
-/

namespace RmwMicroxrcedds
set_option autoImplicit false

open Triples

variable {cfg : Config} {β : Type}

/-- A create function leaves before it has made a topic. -/
def LeavesEarly (cfg : Config) (topicName : CStr)
    (typeSupport : TypeSupport MessageTypeSupportCallbacks) : Prop :=
  cfg.topicNameMaxLength < topicName.length + 1 ∨ ∀ members, typeSupport ≠ .callbacks members

section Early

variable {customNode : Nat} {topicName : CStr} {qosPolicies : RmwQosProfile} {i : Nat} {s : State}
  {typeSupport : TypeSupport MessageTypeSupportCallbacks}

theorem createPublisherBody_early (early : LeavesEarly cfg topicName typeSupport) :
    (createPublisherBody cfg customNode typeSupport topicName qosPolicies i s).1 = false ∧
      Still s (createPublisherBody cfg customNode typeSupport topicName qosPolicies i s).2 := by
  unfold createPublisherBody
  split
  · exact ⟨rfl, .of_ent rfl⟩
  · rename_i fits
    have first := still_writePublisher i (f := fun p =>
      { p with
        topicName := topicName
        ownerNode := some customNode
        qos := qosPolicies
        streamId := if qosPolicies.reliability = .bestEffort then .bestEffort else .reliable })
      (fun _ => rfl) (fun _ => rfl) s
    cases typeSupport with
    | undefined => exact ⟨rfl, first⟩
    | nullData =>
      have second := still_writePublisher i (f := fun p => { p with typeSupportCallbacks := none })
        (fun _ => rfl) fun _ => rfl
      exact ⟨rfl, IsTrans.trans _ _ _ first (second _)⟩
    | callbacks members => exact absurd rfl (early.resolve_left fits members)

theorem createSubscriptionBody_early (early : LeavesEarly cfg topicName typeSupport) :
    (createSubscriptionBody cfg customNode typeSupport topicName qosPolicies i s).1 = false ∧
      Still s (createSubscriptionBody cfg customNode typeSupport topicName qosPolicies i s).2 := by
  unfold createSubscriptionBody
  split
  · exact ⟨rfl, .of_ent rfl⟩
  · rename_i fits
    have first := still_writeSubscription i (f := fun p =>
      { p with topicName := topicName, ownerNode := some customNode, qos := qosPolicies })
      (fun _ => rfl) (fun _ => rfl) s
    cases typeSupport with
    | undefined => exact ⟨rfl, first⟩
    | nullData =>
      have second := still_writeSubscription i (f := fun p => { p with typeSupportCallbacks := none })
        (fun _ => rfl) fun _ => rfl
      exact ⟨rfl, IsTrans.trans _ _ _ first (second _)⟩
    | callbacks members => exact absurd rfl (early.resolve_left fits members)

end Early

namespace Endpoint

variable [Element β] (ep : Endpoint β)

/-- The release of the topic a slot shows. -/
def releaseTopic (x : Option Nat) : Prog Unit :=
  match x with
  | some topic => rmwUxrceFiniTopicMemory topic
  | none => pure ()

/-- The label `fail` of the two create functions. -/
def fail (i : Nat) : Prog Unit := do
  releaseTopic (ep.topic (← readElement ep.kind i))
  finiMemory ep.kind id i

/-- The topics once the topic the slot shows has been released. -/
def releasedTopics (x : Option Nat) (t : Slots Topic) : Slots Topic :=
  match x with
  | some topic => t.finiTopic topic
  | none => t

/-- The slot about to be handed out shows no topic, or one whose release does no harm. -/
def StaleSafe (e : Entities) : Prop :=
  ∀ i ∈ (ep.kind.slots e).get.1, ∀ x ∈ ep.topicOf e i,
    x ∉ e.topic.elements ∧ e.topic.memory.freeitems ≠ some x

instance (e : Entities) : Decidable (ep.StaleSafe e) :=
  inferInstanceAs (Decidable (∀ i ∈ (ep.kind.slots e).get.1, ∀ x ∈ ep.topicOf e i, _))

variable {n : Nat} {e : Entities} {i : Nat} {s : State}

theorem topicOf_entered : ep.topicOf (ep.entered i e) i = ep.topicOf e i := by
  rw [topicOf, entered, ep.kind.slots_withSlots, Slots.opened, Slots.update_custom_self,
    ep.topic_withHandle, Slots.get_custom]
  rfl

variable {ep}

/-- The label `fail`, on a slot that shows `x`. -/
theorem fail_ledger (before : Ledger cfg e) (ok : (ep.kind.slots e).Ok n)
    (hs : Handles (ep.kind.slots e)) (slot : (ep.kind.slots e).get.1 = some i) {x : Option Nat}
    (pools : SamePools (ep.place i x (ep.entered i e)) s.w.ent)
    (topics : Topics cfg e.topic.memory.size e.topic.elements (releasedTopics x s.w.ent.topic))
    (bound : ∀ y ∈ x, y < e.topic.memory.size) :
    Ledger cfg (ep.fail i s).2.w.ent ∧ SameInUse e (ep.fail i s).2.w.ent := by
  have shown : ep.topic ((ep.kind.slots s.w.ent).custom i) = x := (ep.opened ok hs slot pools).own
  -- the release of the topic, if there is one
  obtain ⟨u, run, pools', topics'⟩ : ∃ u, releaseTopic x s = ((), u) ∧
      SamePools (ep.place i x (ep.entered i e)) u.w.ent ∧
      Topics cfg e.topic.memory.size e.topic.elements u.w.ent.topic := by
    cases x with
    | none => exact ⟨s, rfl, pools, topics⟩
    | some y => exact ⟨_, rfl, pools.trans (samePools_finiTopic y _), topics⟩
  have opened := ep.opened ok hs slot pools'
  have mem : i ∈ (ep.kind.slots u.w.ent).elements := by
    rw [opened.elements]
    exact List.mem_cons_self
  obtain ⟨-, -, elements, -⟩ := opened.ok.fini opened.handles mem id fun _ => rfl
  rw [opened.elements, List.erase_cons_head] at elements
  have released := (finiMemory_effect ep.kind id opened.handles mem).ent
  have run' : (ep.fail i s).2 = (finiMemory ep.kind id i u).2 := by
    rw [fail, Prog.bind_run, readElement_run, shown, Prog.bind_run, run]
  rw [run', released]
  constructor
  · exact ep.ledger_failed before opened topics' bound
  · rw [place, entered, ep.kind.withSlots_withSlots] at pools'
    exact ep.inUse pools' elements topics'.elements

/-- What a body leaves when it gets as far as `create_topic`, or before. -/
def Left (ep : Endpoint β) (cfg : Config) (e : Entities) (i : Nat) (created : Bool) (s t : State) :
    Prop :=
  Stored ep cfg (ep.entered i e) e.topic.memory.size e.topic.elements i created t ∨
    created = false ∧ Still s t ∧ ep.StaleSafe e

/-- The frame of the two create functions: an element is handed out, the body fills it, and the fail
label releases it. -/
theorem create_ledger {body : Nat → Prog Bool} (before : Ledger cfg s.w.ent)
    (ok : (ep.kind.slots s.w.ent).Ok n) (hs : Handles (ep.kind.slots s.w.ent))
    (left : ∀ i t, (ep.kind.slots s.w.ent).get.1 = some i → t.w.ent = ep.entered i s.w.ent →
      ep.Left cfg s.w.ent i (body i t).1 t (body i t).2) :
    let r := (do
      match ← acquire ep.kind id with
      | none => return none
      | some i => if ← body i then return some i else do
          ep.fail i
          return none : Prog (Option Nat)) s
    Ledger cfg r.2.w.ent ∧ (r.1 = none → SameInUse s.w.ent r.2.w.ent) := by
  intro r
  cases slot : (ep.kind.slots s.w.ent).get.1 with
  | none =>
    have run : r = (none, s) := by
      simp only [r]
      rw [Prog.bind_run, acquire_none ep.kind id ok slot]
      rfl
    rw [run]
    exact ⟨before, fun _ => .refl _⟩
  | some i =>
    set t := (s.mapEnt (ep.entered i)).mapGhost (ep.kind.handOut i) with ht
    have acquired : acquire ep.kind id s = (some i, t) := acquire_some ep.kind id slot
    have ent : t.w.ent = ep.entered i s.w.ent := rfl
    set u := (body i t).2 with hu
    have run : r = if (body i t).1 then (some i, u) else (none, (ep.fail i u).2) := by
      simp only [r]
      rw [Prog.bind_run, acquired]
      dsimp only
      rw [Prog.bind_run]
      split <;> rfl
    rw [run]
    rcases left i t slot ent with ⟨x, during, made⟩ | ⟨failed, still, safe⟩
    · split
      · rename_i created
        obtain ⟨y, rfl⟩ := Option.ne_none_iff_exists'.1 (made created)
        exact ⟨ep.ledger_created before (ep.opened ok hs slot during.pools) during.topics, by simp⟩
      · have topics : Topics cfg s.w.ent.topic.memory.size s.w.ent.topic.elements
            (releasedTopics x u.w.ent.topic) := by
          cases x with
          | none => exact during.topics
          | some y =>
            have held : Topics cfg s.w.ent.topic.memory.size (y :: s.w.ent.topic.elements)
              u.w.ent.topic := during.topics
            have released := held.release List.mem_cons_self
            rwa [List.erase_cons_head] at released
        have bound : ∀ y ∈ x, y < s.w.ent.topic.memory.size := by
          rintro y rfl
          have inUse : y ∈ u.w.ent.topic.elements := during.topics.elements ▸ List.mem_cons_self
          exact during.topics.size ▸ during.topics.ok.lt inUse
        obtain ⟨ledger, same⟩ := fail_ledger before ok hs slot during.pools topics bound
        exact ⟨ledger, fun _ => same⟩
    · rw [failed, if_neg (by simp)]
      have pools : SamePools (ep.place i (ep.topicOf s.w.ent i) (ep.entered i s.w.ent)) u.w.ent := by
        have self := ep.place_self i (ep.entered i s.w.ent)
        rw [ep.topicOf_entered] at self
        exact self.trans (ent ▸ still.pools)
      have topics : Topics cfg s.w.ent.topic.memory.size s.w.ent.topic.elements u.w.ent.topic := by
        refine Topics.same ?_ still.topics
        rw [ent, entered, ep.topics_withSlots]
        exact before.topics
      have bound : ∀ y ∈ ep.topicOf s.w.ent i, y < s.w.ent.topic.memory.size := fun y hy =>
        before.bound y ((ep.mentions_iff s.w.ent y).2 (.inl ⟨i, hy⟩))
      have released : Topics cfg s.w.ent.topic.memory.size s.w.ent.topic.elements
          (releasedTopics (ep.topicOf s.w.ent i) u.w.ent.topic) := by
        cases stale : ep.topicOf s.w.ent i with
        | none => exact topics
        | some y =>
          obtain ⟨free, head⟩ := safe i slot y stale
          refine topics.release_free (bound y stale) free ?_
          rw [still.topics.memory, ent, entered, ep.topics_withSlots]
          exact head
      obtain ⟨ledger, same⟩ := fail_ledger before ok hs slot pools released bound
      exact ⟨ledger, fun _ => same⟩

/-- A body that leaves early or gets as far as `create_topic`. -/
theorem left_of {p : TypeSupport MessageTypeSupportCallbacks → Nat → Prog Bool} {name : CStr}
    {t : TypeSupport MessageTypeSupportCallbacks} {u : State} (before : Ledger cfg e)
    (early : LeavesEarly cfg name t → (p t i u).1 = false ∧ Still u (p t i u).2)
    (late : ∀ members, ¬ cfg.topicNameMaxLength < name.length + 1 →
      Hoare (During cfg (ep.entered i e) e.topic.memory.size e.topic.elements)
        (p (.callbacks members) i)
        (Stored ep cfg (ep.entered i e) e.topic.memory.size e.topic.elements i))
    (safe : LeavesEarly cfg name t → ep.StaleSafe e) (ent : u.w.ent = ep.entered i e) :
    ep.Left cfg e i (p t i u).1 u (p t i u).2 := by
  by_cases leaves : LeavesEarly cfg name t
  · obtain ⟨failed, still⟩ := early leaves
    exact .inr ⟨failed, still, safe leaves⟩
  · rw [LeavesEarly, not_or] at leaves
    obtain ⟨fits, callbacks⟩ := leaves
    obtain ⟨members, rfl⟩ : ∃ members, t = .callbacks members := by simpa using callbacks
    refine .inl (late members fits u ⟨?_, ?_⟩).2
    · exact ent ▸ .refl _
    · rw [ent, entered, ep.topics_withSlots]
      exact before.topics

variable (ep) in
/-- The create functions after the check of their arguments. -/
theorem checked_ledger {p : Nat → Nat → Prog Bool} {node : Nat} {name : CStr} (wf : Wf cfg s)
    (before : Ledger cfg s.w.ent) (ok : (ep.kind.slots s.w.ent).Ok n)
    (hs : Handles (ep.kind.slots s.w.ent))
    (left : node ∈ s.w.ent.node.elements → name ≠ [] → ∀ customNode i t,
      t.w.ent = ep.entered i s.w.ent →
      ep.Left cfg s.w.ent i (p customNode i t).1 t (p customNode i t).2) :
    let r := (do
      let handle := (← readElement .node node).rmwNode
      if isUxrceRmwIdentifierValid handle.implementationIdentifier = false ∨ name = [] then
        return none
      else
        match ← acquire ep.kind id with
        | none => return none
        | some i =>
          if ← p (deref handle.data) i then return some i
          else
            ep.fail i
            return none : Prog (Option Nat)) s
    Ledger cfg r.2.w.ent ∧ (r.1 = none → SameInUse s.w.ent r.2.w.ent) := by
  dsimp only
  rw [Prog.bind_run, readElement_run]
  dsimp only
  split
  · exact ⟨before, fun _ => .refl _⟩
  · rename_i valid
    rw [not_or, Bool.not_eq_false] at valid
    have inUse : node ∈ s.w.ent.node.elements := wf.nodeHandles.valid valid.1
    exact create_ledger before ok hs fun i t _ ent => left inUse valid.2 _ i t ent

end Endpoint

/-! ## The API functions -/

variable {s : State}

/-- A create function of publishers or subscriptions gets past the check of its arguments and leaves
early. -/
def GivesUp (cfg : Config) (e : Entities) (node : Option Nat)
    (typeSupport : Option (TypeSupport MessageTypeSupportCallbacks)) (topicName : Option CStr)
    (qosPolicies : Option RmwQosProfile) : Prop :=
  ∃ n ∈ node, n ∈ e.node.elements ∧ ∃ t ∈ typeSupport, ∃ name ∈ topicName, name ≠ [] ∧
    qosPolicies ≠ none ∧ LeavesEarly cfg name t

theorem createPublisherFail_eq : createPublisherFail = Endpoint.publisher.fail := by
  funext i s
  rw [createPublisherFail, Prog.bind_run, readElement_run, Endpoint.fail, Prog.bind_run,
    readElement_run]
  dsimp only
  cases h : ((Kind.publisher.slots s.w.ent).custom i).topic with
  | none =>
    have shown : Endpoint.publisher.topic ((Endpoint.publisher.kind.slots s.w.ent).custom i) = none := h
    rw [shown]
    rfl
  | some x =>
    have shown : Endpoint.publisher.topic ((Endpoint.publisher.kind.slots s.w.ent).custom i) = some x := h
    rw [shown]
    rfl

/-- **`rmw_create_publisher`** -/
theorem rmwCreatePublisher_ledger (wf : Wf cfg s) (before : Ledger cfg s.w.ent) (node : Option Nat)
    (typeSupport : Option (TypeSupport MessageTypeSupportCallbacks)) (topicName : Option CStr)
    (qosPolicies : Option RmwQosProfile)
    (safe : GivesUp cfg s.w.ent node typeSupport topicName qosPolicies →
      Endpoint.publisher.StaleSafe s.w.ent) :
    let r := rmwCreatePublisher cfg node typeSupport topicName qosPolicies s
    Ledger cfg r.2.w.ent ∧ (r.1 = none → SameInUse s.w.ent r.2.w.ent) := by
  dsimp only
  unfold rmwCreatePublisher
  split
  · rename_i n t name qos
    rw [createPublisherFail_eq]
    refine Endpoint.publisher.checked_ledger
      (p := fun customNode => createPublisherBody cfg customNode t name qos) wf before wf.publisher
      wf.publisherHandles ?_
    intro inUse named customNode i u ent
    exact Endpoint.left_of (p := fun t => createPublisherBody cfg customNode t name qos) before
      createPublisherBody_early (fun _ => createPublisherBody_hoare)
      (fun early => safe ⟨n, rfl, inUse, t, rfl, name, rfl, named, by simp, early⟩) ent
  · exact ⟨before, fun _ => .refl _⟩

theorem createSubscriptionFail_eq : createSubscriptionFail = Endpoint.subscription.fail := by
  funext i s
  rw [createSubscriptionFail, Prog.bind_run, readElement_run, Endpoint.fail, Prog.bind_run,
    readElement_run]
  dsimp only
  cases h : ((Kind.subscription.slots s.w.ent).custom i).topic with
  | none =>
    have shown : Endpoint.subscription.topic
      ((Endpoint.subscription.kind.slots s.w.ent).custom i) = none := h
    rw [shown]
    rfl
  | some x =>
    have shown : Endpoint.subscription.topic
      ((Endpoint.subscription.kind.slots s.w.ent).custom i) = some x := h
    rw [shown]
    rfl

/-- **`rmw_create_subscription`** -/
theorem rmwCreateSubscription_ledger (wf : Wf cfg s) (before : Ledger cfg s.w.ent)
    (node : Option Nat) (typeSupport : Option (TypeSupport MessageTypeSupportCallbacks))
    (topicName : Option CStr) (qosPolicies : Option RmwQosProfile)
    (safe : GivesUp cfg s.w.ent node typeSupport topicName qosPolicies →
      Endpoint.subscription.StaleSafe s.w.ent) :
    let r := rmwCreateSubscription cfg node typeSupport topicName qosPolicies s
    Ledger cfg r.2.w.ent ∧ (r.1 = none → SameInUse s.w.ent r.2.w.ent) := by
  dsimp only
  unfold rmwCreateSubscription
  split
  · rename_i n t name qos
    rw [createSubscriptionFail_eq]
    refine Endpoint.subscription.checked_ledger
      (p := fun customNode => createSubscriptionBody cfg customNode t name qos) wf before wf.subscription
      wf.subscriptionHandles ?_
    intro inUse named customNode i u ent
    exact Endpoint.left_of (p := fun t => createSubscriptionBody cfg customNode t name qos) before
      createSubscriptionBody_early (fun _ => createSubscriptionBody_hoare)
      (fun early => safe ⟨n, rfl, inUse, t, rfl, name, rfl, named, by simp, early⟩) ent
  · exact ⟨before, fun _ => .refl _⟩

/-- **`rmw_destroy_publisher`**, on a publisher in use. -/
theorem rmwDestroyPublisher_ledger (wf : Wf cfg s) (before : Ledger cfg s.w.ent) {node i : Nat}
    (hn : node ∈ s.w.ent.node.elements) (hi : i ∈ s.w.ent.publisher.elements) :
    Ledger cfg (rmwDestroyPublisher cfg (some node) (some i) s).2.w.ent := by
  obtain ⟨effect, -⟩ := rmwDestroyPublisher_effect wf hn hi
  rw [effect.ent]
  exact Endpoint.publisher.ledger_destroyed before wf.publisher wf.publisherHandles hi

/-- **`rmw_destroy_subscription`**, on a subscription in use. -/
theorem rmwDestroySubscription_ledger (wf : Wf cfg s) (before : Ledger cfg s.w.ent) {node i : Nat}
    (hn : node ∈ s.w.ent.node.elements) (hi : i ∈ s.w.ent.subscription.elements) :
    Ledger cfg (rmwDestroySubscription cfg (some node) (some i) s).2.w.ent := by
  obtain ⟨effect, -⟩ := rmwDestroySubscription_effect wf hn hi
  rw [effect.ent]
  exact Endpoint.subscription.ledger_destroyed before wf.subscription wf.subscriptionHandles hi

end RmwMicroxrcedds
