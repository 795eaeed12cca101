import RmwMicroxrcedds.Proof.Destructions

/-!
# Topics and the endpoints that refer to them

The topics in use and the references to them are two lists that agree up to order, like the two sides
of a ledger. A publisher or subscription that is created enters both sides, one that is destroyed
leaves both; its slot keeps the reference it had, and a later occupant of the slot starts with it.
-/

namespace RmwMicroxrcedds
set_option autoImplicit false

variable {cfg : Config} {β : Type}

/-- The `->topic` of the publishers and subscriptions in use. -/
def Entities.references (e : Entities) : List (Option Nat) :=
  e.publisher.elements.map (fun i => (e.publisher.custom i).topic) ++
    e.subscription.elements.map fun i => (e.subscription.custom i).topic

/-- A slot, in use or not, shows the topic. -/
def Entities.Mentions (e : Entities) (x : Nat) : Prop :=
  (∃ i, (e.publisher.custom i).topic = some x) ∨ ∃ i, (e.subscription.custom i).topic = some x

/-- A proper pool of topics, of which `ts` are in use and have an owner. -/
structure Topics (cfg : Config) (size : Nat) (ts : List Nat) (t : Slots Topic) : Prop where
  ok : t.Ok cfg.maxTopicsInternal
  size : t.memory.size = size
  elements : t.elements = ts
  owned : ∀ x ∈ ts, (t.custom x).ownerNode ≠ none

/-- The two sides agree. -/
structure Ledger (cfg : Config) (e : Entities) : Prop where
  topics : Topics cfg e.topic.memory.size e.topic.elements e.topic
  references : e.references.Perm (e.topic.elements.map some)
  bound : ∀ x, e.Mentions x → x < e.topic.memory.size

theorem ledger_zero (cfg : Config) : Ledger cfg Entities.zero where
  topics := ⟨Slots.zero_ok _, rfl, rfl, fun x hx => by
    simp [Entities.zero, Slots.zero, Slots.elements, Mempool.elements, Mempool.zero,
      Mempool.allocated, Intrusive.walk] at hx⟩
  references := by
    simp [Entities.references, Entities.zero, Slots.zero, Slots.elements, Mempool.elements,
      Mempool.zero, Mempool.allocated, Intrusive.walk]
  bound x hx := by
    rcases hx with ⟨i, hi⟩ | ⟨i, hi⟩ <;> cases hi

/-! ## The pool of topics -/

theorem Slots.finiTopic_owned {t : Slots Topic} {x y : Nat} (ne : y ≠ x)
    (h : (t.custom y).ownerNode ≠ none) : ((t.finiTopic x).custom y).ownerNode ≠ none := by
  rw [Slots.finiTopic, Slots.update_custom_of_ne _ _ ne]
  exact h

section Topics

variable {size : Nat} {ts : List Nat} {t : Slots Topic}

/-- The release of a topic in use. -/
theorem Topics.release (h : Topics cfg size ts t) {x : Nat} (hx : x ∈ ts) :
    Topics cfg size (ts.erase x) (t.finiTopic x) := by
  have inUse : x ∈ t.elements := h.elements ▸ hx
  have nodup : ts.Nodup := h.elements ▸ h.ok.nodup
  obtain ⟨ok, elements⟩ := h.ok.put inUse
  constructor
  · exact ok.update _ _
  · exact (Slots.put_size t x).trans h.size
  · exact elements.trans (by rw [h.elements])
  · intro y hy
    rw [nodup.mem_erase_iff] at hy
    exact Slots.finiTopic_owned hy.1 (h.owned y hy.2)

/-- A topic handed out and given an owner. -/
theorem Topics.take (h : Topics cfg size ts t) {x : Nat} (slot : t.get.1 = some x) {f : Topic → Topic}
    (owner : ∀ b, (f b).ownerNode ≠ none) : Topics cfg size (x :: ts) (t.get.2.update x f) := by
  obtain ⟨ok, free, -, elements⟩ := h.ok.get_some slot
  constructor
  · exact ok.update _ _
  · exact h.ok.get_size.trans h.size
  · exact elements.trans (by rw [h.elements])
  · intro y hy
    by_cases ne : y = x
    · rw [ne, Slots.update_custom_self]
      exact owner _
    · rw [Slots.update_custom_of_ne _ _ ne, Slots.get_custom]
      exact h.owned y ((List.mem_cons.1 hy).resolve_left ne)

/-- The release of a topic that is free and does not head the free list only moves it to the head. -/
theorem Topics.release_free (h : Topics cfg size ts t) {x : Nat} (lt : x < size) (free : x ∉ ts)
    (head : t.memory.freeitems ≠ some x) : Topics cfg size ts (t.finiTopic x) := by
  obtain ⟨ok, elements⟩ := h.ok.put_free (h.size.symm ▸ lt) (h.elements.symm ▸ free) head
  constructor
  · exact ok.update _ _
  · exact (Slots.put_size t x).trans h.size
  · exact elements.trans h.elements
  · intro y hy
    refine Slots.finiTopic_owned ?_ (h.owned y hy)
    rintro rfl
    exact free hy

/-- Whatever keeps the lists and the owners. -/
theorem Topics.congr (h : Topics cfg size ts t) {t' : Slots Topic} (memory : t'.memory = t.memory)
    (owned : ∀ x, (t.custom x).ownerNode ≠ none → (t'.custom x).ownerNode ≠ none) :
    Topics cfg size ts t' where
  ok := h.ok.of_memory memory
  size := memory ▸ h.size
  elements := by
    rw [← h.elements, Slots.elements, Slots.elements, memory]
  owned x hx := owned x (h.owned x hx)

end Topics

/-! ## What leaves the ledger alone -/

/-- The same elements are in use, with the same handles. -/
structure Slots.Same [Element β] (t t' : Slots β) : Prop where
  memory : t'.memory = t.memory
  handle : ∀ i, Element.handle (t'.custom i) = Element.handle (t.custom i)

/-- The same nodes and entities are in use, and the endpoints refer to the same topics. -/
structure SamePools (e e' : Entities) : Prop where
  node : e.node.Same e'.node
  publisher : e.publisher.Same e'.publisher
  subscription : e.subscription.Same e'.subscription
  service : e.service.Same e'.service
  client : e.client.Same e'.client
  publisherTopic : ∀ i, (e'.publisher.custom i).topic = (e.publisher.custom i).topic
  subscriptionTopic : ∀ i, (e'.subscription.custom i).topic = (e.subscription.custom i).topic

/-- The same topics are in use, and none has lost its owner. -/
structure SameTopics (e e' : Entities) : Prop where
  memory : e'.topic.memory = e.topic.memory
  owned : ∀ x, (e.topic.custom x).ownerNode ≠ none → (e'.topic.custom x).ownerNode ≠ none

section Same

variable [Element β] {t t' t'' : Slots β} {e e' e'' : Entities}

theorem Slots.Same.refl (t : Slots β) : t.Same t := ⟨rfl, fun _ => rfl⟩

theorem Slots.Same.trans (h : t.Same t') (k : t'.Same t'') : t.Same t'' :=
  ⟨k.memory.trans h.memory, fun i => (k.handle i).trans (h.handle i)⟩

theorem Slots.Same.elements (h : t.Same t') : t'.elements = t.elements := by
  rw [Slots.elements, Slots.elements, h.memory]

theorem Slots.Same.handles (h : t.Same t') (hs : Handles t) : Handles t' := fun i => by
  rw [h.handle, h.elements]
  exact hs i

theorem Slots.Same.ok {n : Nat} (h : t.Same t') (ok : t.Ok n) : t'.Ok n := ok.of_memory h.memory

/-- Writing fields other than the handle. -/
theorem Slots.Same.update (t : Slots β) (i : Nat) {f : β → β}
    (keep : ∀ b, Element.handle (f b) = Element.handle b) : t.Same (t.update i f) :=
  ⟨rfl, fun _ => Slots.update_keep t i keep _⟩

theorem SamePools.refl (e : Entities) : SamePools e e :=
  ⟨.refl _, .refl _, .refl _, .refl _, .refl _, fun _ => rfl, fun _ => rfl⟩

theorem SamePools.trans (h : SamePools e e') (k : SamePools e' e'') : SamePools e e'' :=
  ⟨h.node.trans k.node, h.publisher.trans k.publisher, h.subscription.trans k.subscription,
    h.service.trans k.service, h.client.trans k.client,
    fun i => (k.publisherTopic i).trans (h.publisherTopic i),
    fun i => (k.subscriptionTopic i).trans (h.subscriptionTopic i)⟩

theorem SameTopics.refl (e : Entities) : SameTopics e e := ⟨rfl, fun _ h => h⟩

theorem SameTopics.trans (h : SameTopics e e') (k : SameTopics e' e'') : SameTopics e e'' :=
  ⟨k.memory.trans h.memory, fun x hx => k.owned x (h.owned x hx)⟩

theorem Topics.same {size : Nat} {ts : List Nat} (h : Topics cfg size ts e.topic)
    (same : SameTopics e e') : Topics cfg size ts e'.topic := h.congr same.memory same.owned

theorem SamePools.references (h : SamePools e e') : e'.references = e.references := by
  simp only [Entities.references, h.publisher.elements, h.subscription.elements, h.publisherTopic,
    h.subscriptionTopic]

theorem SamePools.mentions (h : SamePools e e') (x : Nat) : e'.Mentions x ↔ e.Mentions x := by
  simp only [Entities.Mentions, h.publisherTopic, h.subscriptionTopic]

theorem Ledger.same (ledger : Ledger cfg e) (pools : SamePools e e') (topics : SameTopics e e') :
    Ledger cfg e' := by
  have kept := ledger.topics.same topics
  have elements : e'.topic.elements = e.topic.elements := kept.elements
  have size : e'.topic.memory.size = e.topic.memory.size := kept.size
  constructor
  · rw [size, elements]
    exact kept
  · rw [pools.references, elements]
    exact ledger.references
  · intro x hx
    rw [size]
    exact ledger.bound x ((pools.mentions x).1 hx)

end Same

/-- The same nodes, entities and topics are in use, in the same order. -/
structure SameInUse (e e' : Entities) : Prop where
  node : e'.node.elements = e.node.elements
  publisher : e'.publisher.elements = e.publisher.elements
  subscription : e'.subscription.elements = e.subscription.elements
  service : e'.service.elements = e.service.elements
  client : e'.client.elements = e.client.elements
  topic : e'.topic.elements = e.topic.elements

theorem SameInUse.refl (e : Entities) : SameInUse e e := ⟨rfl, rfl, rfl, rfl, rfl, rfl⟩

/-! ## Endpoints -/

/-- What publishers and subscriptions have in common: an element refers to a topic, and the rest of
the references are those of the other kind. -/
structure Endpoint (β : Type) [Element β] where
  kind : Kind β
  topic : β → Option Nat
  withTopic : Option Nat → β → β
  restElements : Entities → List Nat
  restTopic : Entities → Nat → Option Nat
  topic_withTopic : ∀ x b, topic (withTopic x b) = x
  topic_withHandle : ∀ h b, topic (Element.withHandle h b) = topic b
  handle_withTopic : ∀ x b, Element.handle (withTopic x b) = Element.handle b
  topics_withSlots : ∀ t e, (kind.withSlots t e).topic = e.topic
  restElements_withSlots : ∀ t e, restElements (kind.withSlots t e) = restElements e
  restTopic_withSlots : ∀ t e, restTopic (kind.withSlots t e) = restTopic e
  references_perm : ∀ e : Entities, e.references.Perm
    ((kind.slots e).elements.map (fun i => topic ((kind.slots e).custom i)) ++
      (restElements e).map (restTopic e))
  mentions_iff : ∀ (e : Entities) x, e.Mentions x ↔
    (∃ i, topic ((kind.slots e).custom i) = some x) ∨ ∃ i, restTopic e i = some x
  slots_same : ∀ {e e'}, SamePools e e' → (kind.slots e).Same (kind.slots e')
  topic_same : ∀ {e e'}, SamePools e e' → ∀ i,
    topic ((kind.slots e').custom i) = topic ((kind.slots e).custom i)
  restElements_same : ∀ {e e'}, SamePools e e' → restElements e' = restElements e
  restTopic_same : ∀ {e e'}, SamePools e e' → restTopic e' = restTopic e
  withSlots_same : ∀ {e e' t t'}, SamePools e e' → t.Same t' →
    (∀ i, topic (t'.custom i) = topic (t.custom i)) →
    SamePools (kind.withSlots t e) (kind.withSlots t' e')
  inUse : ∀ {e e' t t'}, SamePools (kind.withSlots t e) e' →
    t'.elements = (kind.slots e).elements → e'.topic.elements = e.topic.elements →
    SameInUse e (kind.withSlots t' e')

namespace Endpoint

def publisher : Endpoint Publisher where
  kind := .publisher
  topic := (·.topic)
  withTopic x p := { p with topic := x }
  restElements e := e.subscription.elements
  restTopic e i := (e.subscription.custom i).topic
  topic_withTopic _ _ := rfl
  topic_withHandle _ _ := rfl
  handle_withTopic _ _ := rfl
  topics_withSlots _ _ := rfl
  restElements_withSlots _ _ := rfl
  restTopic_withSlots _ _ := rfl
  references_perm _ := List.Perm.refl _
  mentions_iff _ _ := Iff.rfl
  slots_same h := h.publisher
  topic_same h := h.publisherTopic
  restElements_same h := h.subscription.elements
  restTopic_same h := funext h.subscriptionTopic
  withSlots_same h same topic :=
    ⟨h.node, same, h.subscription, h.service, h.client, topic, h.subscriptionTopic⟩
  inUse h own topics :=
    ⟨h.node.elements, own, h.subscription.elements, h.service.elements, h.client.elements, topics⟩

def subscription : Endpoint Subscription where
  kind := .subscription
  topic := (·.topic)
  withTopic x p := { p with topic := x }
  restElements e := e.publisher.elements
  restTopic e i := (e.publisher.custom i).topic
  topic_withTopic _ _ := rfl
  topic_withHandle _ _ := rfl
  handle_withTopic _ _ := rfl
  topics_withSlots _ _ := rfl
  restElements_withSlots _ _ := rfl
  restTopic_withSlots _ _ := rfl
  references_perm _ := List.perm_append_comm
  mentions_iff _ _ := or_comm
  slots_same h := h.subscription
  topic_same h := h.subscriptionTopic
  restElements_same h := h.publisher.elements
  restTopic_same h := funext h.publisherTopic
  withSlots_same h same topic :=
    ⟨h.node, h.publisher, same, h.service, h.client, h.publisherTopic, topic⟩
  inUse h own topics :=
    ⟨h.node.elements, h.publisher.elements, own, h.service.elements, h.client.elements, topics⟩

section

variable [Element β] (ep : Endpoint β)

/-- The topic a slot refers to. -/
def topicOf (e : Entities) (i : Nat) : Option Nat := ep.topic ((ep.kind.slots e).custom i)

/-- The references of one kind and those of the other. -/
theorem ledger {m : Nat} {l : List Nat} {e : Entities} (topics : Topics cfg m l e.topic)
    (references : ((ep.kind.slots e).elements.map (ep.topicOf e) ++
      (ep.restElements e).map (ep.restTopic e)).Perm (l.map some))
    (bound : ∀ i x, ep.topicOf e i = some x → x < m)
    (rest : ∀ i x, ep.restTopic e i = some x → x < m) : Ledger cfg e := by
  constructor
  · rw [topics.size, topics.elements]
    exact topics
  · rw [topics.elements]
    exact (ep.references_perm e).trans references
  · intro x hx
    rw [topics.size]
    rcases (ep.mentions_iff e x).1 hx with ⟨i, hi⟩ | ⟨i, hi⟩
    · exact bound i x hi
    · exact rest i x hi

/-- The entities with the topic of a slot overwritten. -/
def place (i : Nat) (x : Option Nat) (e : Entities) : Entities :=
  ep.kind.withSlots ((ep.kind.slots e).update i (ep.withTopic x)) e

/-- The entities once the slot has been handed out. -/
def entered (i : Nat) (e : Entities) : Entities :=
  ep.kind.withSlots ((ep.kind.slots e).opened i id) e

theorem place_congr {e e' : Entities} (i : Nat) (x : Option Nat) (h : SamePools e e') :
    SamePools (ep.place i x e) (ep.place i x e') := by
  have own := ep.slots_same h
  apply ep.withSlots_same h
  · constructor
    · exact own.memory
    · intro j
      rw [Slots.update_keep _ i (ep.handle_withTopic x), Slots.update_keep _ i (ep.handle_withTopic x),
        own.handle]
  · intro j
    by_cases ne : j = i
    · rw [ne, Slots.update_custom_self, Slots.update_custom_self, ep.topic_withTopic,
        ep.topic_withTopic]
    · rw [Slots.update_custom_of_ne _ _ ne, Slots.update_custom_of_ne _ _ ne, ep.topic_same h]

/-- A slot that keeps its topic. -/
theorem place_self (i : Nat) (e : Entities) : SamePools (ep.place i (ep.topicOf e i) e) e := by
  have h : SamePools (ep.place i (ep.topicOf e i) e) (ep.kind.withSlots (ep.kind.slots e) e) := by
    apply ep.withSlots_same (.refl e)
    · constructor
      · rfl
      · intro j
        rw [Slots.update_keep _ i (ep.handle_withTopic _)]
    · intro j
      by_cases ne : j = i
      · rw [ne, Slots.update_custom_self, ep.topic_withTopic, topicOf]
      · rw [Slots.update_custom_of_ne _ _ ne]
  rwa [ep.kind.withSlots_slots] at h

/-! ### Creations -/

/-- A slot has been handed out and refers to `x`; otherwise the pools are those of `e`. -/
structure Opened (n : Nat) (e : Entities) (i : Nat) (x : Option Nat) (e' : Entities) : Prop where
  ok : (ep.kind.slots e').Ok n
  handles : Handles (ep.kind.slots e')
  fresh : i ∉ (ep.kind.slots e).elements
  elements : (ep.kind.slots e').elements = i :: (ep.kind.slots e).elements
  own : ep.topicOf e' i = x
  others : ∀ j, j ≠ i → ep.topicOf e' j = ep.topicOf e j
  restElements : ep.restElements e' = ep.restElements e
  restTopic : ep.restTopic e' = ep.restTopic e

theorem opened {n : Nat} {e e' : Entities} {i : Nat} {x : Option Nat}
    (ok : (ep.kind.slots e).Ok n) (hs : Handles (ep.kind.slots e))
    (slot : (ep.kind.slots e).get.1 = some i) (placed : SamePools (ep.place i x (ep.entered i e)) e') :
    ep.Opened n e i x e' := by
  obtain ⟨ok', fresh, -, elements⟩ := ok.get_some slot
  rw [place, entered, ep.kind.slots_withSlots, ep.kind.withSlots_withSlots] at placed
  set t := ((ep.kind.slots e).opened i id).update i (ep.withTopic x) with ht
  have same := ep.slots_same placed
  rw [ep.kind.slots_withSlots] at same
  have topic : ∀ j, ep.topicOf e' j = ep.topic (t.custom j) := by
    intro j
    rw [topicOf, ep.topic_same placed, ep.kind.slots_withSlots]
  constructor
  · exact same.ok (((ok'.update _ _).update _ _))
  · exact same.handles ((hs.opened ok slot id).update i (ep.handle_withTopic x))
  · exact fresh
  · exact same.elements.trans elements
  · rw [topic, ht, Slots.update_custom_self, ep.topic_withTopic]
  · intro j ne
    rw [topic, ht, Slots.update_custom_of_ne _ _ ne, Slots.opened, Slots.update_custom_of_ne _ _ ne,
      Slots.get_custom, topicOf]
  · rw [ep.restElements_same placed, ep.restElements_withSlots]
  · rw [ep.restTopic_same placed, ep.restTopic_withSlots]

variable {ep} in
/-- The references of the elements that were in use before. -/
theorem Opened.map {n : Nat} {e e' : Entities} {i : Nat} {x : Option Nat}
    (h : ep.Opened n e i x e') :
    (ep.kind.slots e).elements.map (ep.topicOf e') = (ep.kind.slots e).elements.map (ep.topicOf e) := by
  refine List.map_congr_left fun j hj => h.others j ?_
  rintro rfl
  exact h.fresh hj

variable {n : Nat} {e e' : Entities} {i : Nat}

/-- A creation that succeeds enters both sides. -/
theorem ledger_created (before : Ledger cfg e) {x : Nat} (h : ep.Opened n e i (some x) e')
    (topics : Topics cfg e.topic.memory.size (x :: e.topic.elements) e'.topic) : Ledger cfg e' := by
  apply ep.ledger topics
  · rw [h.elements, List.map_cons, h.own, h.map, h.restElements, h.restTopic, List.map_cons,
      List.cons_append]
    exact ((ep.references_perm e).symm.trans before.references).cons _
  · intro j y hj
    by_cases ne : j = i
    · rw [ne, h.own] at hj
      obtain rfl := Option.some.inj hj
      have inUse : x ∈ e'.topic.elements := topics.elements ▸ List.mem_cons_self
      exact topics.size ▸ topics.ok.lt inUse
    · rw [h.others j ne] at hj
      exact before.bound y ((ep.mentions_iff e y).2 (.inl ⟨j, hj⟩))
  · intro j y hj
    rw [h.restTopic] at hj
    exact before.bound y ((ep.mentions_iff e y).2 (.inr ⟨j, hj⟩))

/-- The topic of a slot survives the release of its element. -/
theorem topicOf_fini (t : Slots β) (i j : Nat) :
    ep.topic ((t.fini id i).custom j) = ep.topic (t.custom j) := by
  have keep : ∀ (t : Slots β) (k : Nat) (f : β → Handle),
      ep.topic ((t.update k fun b => Element.withHandle (f b) b).custom j) = ep.topic (t.custom j) := by
    intro t k f
    exact Slots.update_keep t k (fun b => ep.topic_withHandle (f b) b) j
  have same : ∀ (t : Slots β) (k : Nat), ep.topic ((t.update k id).custom j) = ep.topic (t.custom j) :=
    fun t k => Slots.update_keep t k (fun _ => rfl) j
  rw [Slots.fini]
  dsimp only
  split
  · rw [keep]
  · rw [keep, Slots.put_custom, same, keep]

/-- A creation that fails gives its slot back; the slot goes on showing the topic it had. -/
theorem ledger_failed (before : Ledger cfg e) {x : Option Nat} (h : ep.Opened n e i x e')
    (topics : Topics cfg e.topic.memory.size e.topic.elements e'.topic)
    (bound : ∀ y ∈ x, y < e.topic.memory.size) :
    Ledger cfg (ep.kind.withSlots ((ep.kind.slots e').fini id i) e') := by
  have mem : i ∈ (ep.kind.slots e').elements := by
    rw [h.elements]
    exact List.mem_cons_self
  obtain ⟨-, -, elements, -⟩ := h.ok.fini h.handles mem id fun _ => rfl
  rw [h.elements, List.erase_cons_head] at elements
  have topic : ep.topicOf (ep.kind.withSlots ((ep.kind.slots e').fini id i) e') = ep.topicOf e' := by
    funext j
    rw [topicOf, ep.kind.slots_withSlots, ep.topicOf_fini, topicOf]
  apply ep.ledger (m := e.topic.memory.size) (l := e.topic.elements)
  · rw [ep.topics_withSlots]
    exact topics
  · rw [ep.kind.slots_withSlots, elements, topic, h.map, ep.restElements_withSlots,
      ep.restTopic_withSlots, h.restElements, h.restTopic]
    exact (ep.references_perm e).symm.trans before.references
  · intro j y hj
    rw [topic] at hj
    by_cases ne : j = i
    · rw [ne, h.own] at hj
      exact bound y hj
    · rw [h.others j ne] at hj
      exact before.bound y ((ep.mentions_iff e y).2 (.inl ⟨j, hj⟩))
  · intro j y hj
    rw [ep.restTopic_withSlots, h.restTopic] at hj
    exact before.bound y ((ep.mentions_iff e y).2 (.inr ⟨j, hj⟩))

/-! ### Destructions -/

/-- The entities after the destruction of an element in use. -/
def destroyed (i : Nat) (e : Entities) : Entities :=
  ep.kind.withSlots ((ep.kind.slots e).fini id i) (destroyedTopic (deref (ep.topicOf e i)) e)

theorem samePools_finiTopic (x : Nat) (e : Entities) : SamePools e (finiTopic x e) :=
  ⟨.refl _, .refl _, .refl _, .refl _, .refl _, fun _ => rfl, fun _ => rfl⟩

/-- An endpoint in use refers to a topic in use. -/
theorem topicOf_mem (ledger : Ledger cfg e)
    (hi : i ∈ (ep.kind.slots e).elements) : ∃ x ∈ e.topic.elements, ep.topicOf e i = some x := by
  have own : ep.topicOf e i ∈ e.references := by
    rw [(ep.references_perm e).mem_iff]
    exact List.mem_append_left _ (List.mem_map_of_mem hi)
  rw [ledger.references.mem_iff] at own
  obtain ⟨x, hx, eq⟩ := List.mem_map.1 own
  exact ⟨x, hx, eq.symm⟩

/-- A destruction leaves both sides. -/
theorem ledger_destroyed (ledger : Ledger cfg e) (ok : (ep.kind.slots e).Ok n)
    (hs : Handles (ep.kind.slots e)) (hi : i ∈ (ep.kind.slots e).elements) :
    Ledger cfg (ep.destroyed i e) := by
  obtain ⟨x, hx, topic⟩ := ep.topicOf_mem ledger hi
  obtain ⟨-, -, elements, -⟩ := ok.fini hs hi id fun _ => rfl
  have released : destroyedTopic (deref (ep.topicOf e i)) e = finiTopic x e := by
    rw [topic, destroyedTopic]
    exact if_neg (ledger.topics.owned x hx)
  have same := samePools_finiTopic x e
  have kept : ep.topicOf (ep.destroyed i e) = ep.topicOf e := by
    funext j
    rw [topicOf, destroyed, ep.kind.slots_withSlots, ep.topicOf_fini, topicOf]
  have restElements : ep.restElements (ep.destroyed i e) = ep.restElements e := by
    rw [destroyed, ep.restElements_withSlots, released, ep.restElements_same same]
  have restTopic : ep.restTopic (ep.destroyed i e) = ep.restTopic e := by
    rw [destroyed, ep.restTopic_withSlots, released, ep.restTopic_same same]
  apply ep.ledger (m := e.topic.memory.size) (l := e.topic.elements.erase x)
  · rw [destroyed, ep.topics_withSlots, released]
    exact ledger.topics.release hx
  · rw [kept, restElements, restTopic, destroyed, ep.kind.slots_withSlots, elements]
    have left : ((ep.kind.slots e).elements.map (ep.topicOf e)).Perm
        (some x :: ((ep.kind.slots e).elements.erase i).map (ep.topicOf e)) := by
      have split := (List.perm_cons_erase hi).map (ep.topicOf e)
      rwa [List.map_cons, topic] at split
    have right : (e.topic.elements.map some).Perm (some x :: (e.topic.elements.erase x).map some) :=
      (List.perm_cons_erase hx).map some
    have sides := ((left.append_right _).symm.trans
      ((ep.references_perm e).symm.trans ledger.references)).trans right
    exact sides.cons_inv
  · intro j y hj
    rw [kept] at hj
    exact ledger.bound y ((ep.mentions_iff e y).2 (.inl ⟨j, hj⟩))
  · intro j y hj
    rw [restTopic] at hj
    exact ledger.bound y ((ep.mentions_iff e y).2 (.inr ⟨j, hj⟩))

end

end Endpoint

end RmwMicroxrcedds
