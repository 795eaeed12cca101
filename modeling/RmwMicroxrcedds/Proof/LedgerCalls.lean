import RmwMicroxrcedds.Proof.EndpointLedger
import RmwMicroxrcedds.Proof.Frames

/-!
# The ledger over the calls that manage entities

Nodes, services and clients refer to no topic: their pools can change without touching the ledger.
What is left is that a create function that fails gives its element back. `create_node` does so on
every exit but one.
-/

namespace RmwMicroxrcedds
set_option autoImplicit false

open Triples

variable {cfg : Config} {α β : Type}

/-- The ledger is about the topics and the endpoints. -/
theorem Ledger.of_endpoints {e e' : Entities} (h : Ledger cfg e) (publisher : e'.publisher = e.publisher)
    (subscription : e'.subscription = e.subscription) (topic : e'.topic = e.topic) : Ledger cfg e' := by
  constructor
  · rw [topic]
    exact h.topics
  · rw [Entities.references, publisher, subscription, topic]
    exact h.references
  · intro x
    rw [Entities.Mentions, publisher, subscription, topic]
    exact h.bound x

/-- What nodes, services and clients have in common. -/
structure Plain (β : Type) [Element β] where
  kind : Kind β
  publisher : ∀ t e, (kind.withSlots t e).publisher = e.publisher
  subscription : ∀ t e, (kind.withSlots t e).subscription = e.subscription
  topic : ∀ t e, (kind.withSlots t e).topic = e.topic
  slots_same : ∀ {e e'}, SamePools e e' → (kind.slots e).Same (kind.slots e')
  inUse : ∀ {e e' t t'}, SamePools (kind.withSlots t e) e' →
    t'.elements = (kind.slots e).elements → e'.topic.elements = e.topic.elements →
    SameInUse e (kind.withSlots t' e')

namespace Plain

def node : Plain Node where
  kind := .node
  publisher _ _ := rfl
  subscription _ _ := rfl
  topic _ _ := rfl
  slots_same h := h.node
  inUse h own topics := ⟨own, h.publisher.elements, h.subscription.elements, h.service.elements,
    h.client.elements, topics⟩

def service : Plain Service where
  kind := .service
  publisher _ _ := rfl
  subscription _ _ := rfl
  topic _ _ := rfl
  slots_same h := h.service
  inUse h own topics := ⟨h.node.elements, h.publisher.elements, h.subscription.elements, own,
    h.client.elements, topics⟩

def client : Plain Client where
  kind := .client
  publisher _ _ := rfl
  subscription _ _ := rfl
  topic _ _ := rfl
  slots_same h := h.client
  inUse h own topics := ⟨h.node.elements, h.publisher.elements, h.subscription.elements,
    h.service.elements, own, topics⟩

section

variable [Element β] (pl : Plain β) {n : Nat} {e : Entities} {i : Nat} {s : State}

theorem ledger (h : Ledger cfg e) (t : Slots β) : Ledger cfg (pl.kind.withSlots t e) :=
  h.of_endpoints (pl.publisher t e) (pl.subscription t e) (pl.topic t e)

/-- The element handed out is the only change so far. -/
structure Held (n : Nat) (e : Entities) (i : Nat) (s : State) : Prop where
  pools : ∃ t, t.Ok n ∧ Handles t ∧ t.elements = i :: (pl.kind.slots e).elements ∧
    SamePools (pl.kind.withSlots t e) s.w.ent
  topics : SameTopics e s.w.ent

/-- What a create function is to leave. -/
def Kept (cfg : Config) (e : Entities) (created : Option Nat) (s : State) : Prop :=
  Ledger cfg s.w.ent ∧ (created = none → SameInUse e s.w.ent)

variable {pl}

theorem Held.still {t : State} (h : pl.Held n e i s) (still : Still s t) : pl.Held n e i t := by
  obtain ⟨pools, ok, hs, elements, same⟩ := h.pools
  exact ⟨⟨pools, ok, hs, elements, same.trans still.pools⟩, h.topics.trans still.topics⟩

/-- A program that leaves the ledger alone, followed by another. -/
theorem Held.within {p : Prog α} {f : α → Prog (Option Nat)} {Q : Option Nat → State → Prop}
    (h : Within Still p) (next : ∀ a, Hoare (pl.Held n e i) (f a) Q) :
    Hoare (pl.Held n e i) (p >>= f) Q :=
  Triple.bind (h.hoare fun _ _ held still => held.still still) next

/-- The exit with the element. -/
theorem Held.exit (before : Ledger cfg e) :
    Hoare (pl.Held n e i) (Pure.pure (some i)) (Kept cfg e) := Triple.pure fun s h => by
  obtain ⟨t, -, -, -, same⟩ := h.pools
  have topics : SameTopics (pl.kind.withSlots t e) s.w.ent := by
    constructor <;> rw [pl.topic]
    · exact h.topics.memory
    · exact h.topics.owned
  exact ⟨(pl.ledger before t).same same topics, by simp⟩

/-- The exits that release the element. -/
theorem Held.fail (before : Ledger cfg e) {clear : β → β}
    (keep : ∀ b, Element.handle (clear b) = Element.handle b) :
    Hoare (pl.Held n e i) (do
      finiMemory pl.kind clear i
      return none) (Kept cfg e) := by
  refine Hoare.of fun s h => ?_
  obtain ⟨t, ok, hs, elements, same⟩ := h.pools
  have own := pl.slots_same same
  rw [pl.kind.slots_withSlots] at own
  have inUse : i ∈ (pl.kind.slots s.w.ent).elements := by
    rw [own.elements, elements]
    exact List.mem_cons_self
  obtain ⟨-, -, erased, -⟩ := (own.ok ok).fini (own.handles hs) inUse clear keep
  rw [own.elements, elements, List.erase_cons_head] at erased
  have released := (finiMemory_effect pl.kind clear (own.handles hs) inUse).ent
  have topics : s.w.ent.topic.elements = e.topic.elements := (before.topics.same h.topics).elements
  rw [Prog.bind_run]
  show Kept cfg e none (finiMemory pl.kind clear i s).2
  rw [Kept, released]
  constructor
  · exact pl.ledger (Held.exit before s h).2.1 _
  · exact fun _ => pl.inUse same erased topics

variable (pl) in
/-- The frame of the create functions. -/
theorem acquire_kept (ok : (pl.kind.slots s.w.ent).Ok n) (hs : Handles (pl.kind.slots s.w.ent))
    (enter : β → β) {rest : Nat → Prog (Option Nat)} {Q : Option Nat → State → Prop} (full : Q none s)
    (next : ∀ i, (pl.kind.slots s.w.ent).get.1 = some i → Hoare (pl.Held n s.w.ent i) (rest i) Q) :
    let r := (do
      match ← acquire pl.kind enter with
      | none => return none
      | some i => rest i : Prog (Option Nat)) s
    Q r.1 r.2 := by
  dsimp only
  rw [Prog.bind_run]
  cases slot : (pl.kind.slots s.w.ent).get.1 with
  | none =>
    rw [acquire_none pl.kind enter ok slot]
    exact full
  | some i =>
    rw [acquire_some pl.kind enter slot]
    refine (next i slot _ ⟨⟨_, ?_, hs.opened ok slot enter, ?_, .refl _⟩, ?_⟩).2
    · exact (ok.get_some slot).1.update _ _
    · exact (ok.get_some slot).2.2.2
    · constructor <;> rw [State.mapGhost, State.mapEnt, pl.topic]
      exact fun _ h => h

end

end Plain

/-! ## Services and clients -/

section Calls

variable {s : State}

/-- The create functions of services and clients after the check of their arguments. -/
theorem Plain.checked_kept [Element β] (pl : Plain β) {n node : Nat} {name : CStr}
    {p : Nat → Nat → Prog Bool} (before : Ledger cfg s.w.ent) (ok : (pl.kind.slots s.w.ent).Ok n)
    (hs : Handles (pl.kind.slots s.w.ent)) (still : ∀ customNode i, Within Still (p customNode i)) :
    let r := (do
      let handle := (← readElement .node node).rmwNode
      if isUxrceRmwIdentifierValid handle.implementationIdentifier = false ∨ name = [] then
        return none
      else
        match ← acquire pl.kind id with
        | none => return none
        | some i =>
          if ← p (deref handle.data) i then return some i
          else
            finiMemory pl.kind id i
            return none : Prog (Option Nat)) s
    Plain.Kept cfg s.w.ent r.1 r.2 := by
  dsimp only
  rw [Prog.bind_run, readElement_run]
  dsimp only
  split
  · exact ⟨before, fun _ => .refl _⟩
  · refine pl.acquire_kept ok hs id ⟨before, fun _ => .refl _⟩ fun i _ => ?_
    refine Plain.Held.within (still _ i) fun created => Triple.ite (fun _ => ?_) fun _ => ?_
    · exact Plain.Held.exit before
    · exact Plain.Held.fail before fun _ => rfl

/-- **`rmw_create_service`** -/
theorem rmwCreateService_kept (wf : Wf cfg s) (before : Ledger cfg s.w.ent) (node : Option Nat)
    (typeSupport : Option (TypeSupport ServiceTypeSupportCallbacks)) (serviceName : Option CStr)
    (qosPolicies : Option RmwQosProfile) (requestId : Nat) :
    let r := rmwCreateService cfg node typeSupport serviceName qosPolicies requestId s
    Plain.Kept cfg s.w.ent r.1 r.2 := by
  dsimp only
  unfold rmwCreateService
  split
  · rename_i n t name qos
    exact Plain.service.checked_kept
      (p := fun customNode => createServiceBody cfg customNode t name qos requestId)
      before wf.service wf.serviceHandles fun _ i => walk_createServiceBody still_writeSession still_given fun _ keep =>
        still_writeService i keep
  · exact ⟨before, fun _ => .refl _⟩

/-- **`rmw_create_client`** -/
theorem rmwCreateClient_kept (wf : Wf cfg s) (before : Ledger cfg s.w.ent) (node : Option Nat)
    (typeSupport : Option (TypeSupport ServiceTypeSupportCallbacks)) (serviceName : Option CStr)
    (qosPolicies : Option RmwQosProfile) (requestId : Nat) :
    let r := rmwCreateClient cfg node typeSupport serviceName qosPolicies requestId s
    Plain.Kept cfg s.w.ent r.1 r.2 := by
  dsimp only
  unfold rmwCreateClient
  split
  · rename_i n t name qos
    exact Plain.client.checked_kept
      (p := fun customNode => createClientBody cfg customNode t name qos requestId)
      before wf.client wf.clientHandles fun _ i => walk_createClientBody still_writeSession still_given fun _ keep =>
        still_writeClient i keep
  · exact ⟨before, fun _ => .refl _⟩

/-! ## Nodes -/

/-- `create_node` gets as far as the text of the request, and there is none. -/
def Forgets (cfg : Config) (name namespace_ : Option CStr) : Prop :=
  ∃ n ∈ name, ∃ ns ∈ namespace_, n ≠ [] ∧ ns ≠ [] ∧ n.length + 1 ≤ cfg.nodeNameMaxLength ∧
    ns.length + 1 ≤ cfg.nodeNameMaxLength ∧ participantText cfg n ns = none

/-- **`rmw_create_node`** keeps the ledger, and the elements in use if it fails in another way than
by forgetting a node. -/
theorem rmwCreateNode_ledger (wf : Wf cfg s) (before : Ledger cfg s.w.ent) (context : Option Nat)
    (name namespace_ : Option CStr) :
    let r := rmwCreateNode cfg context name namespace_ s
    Ledger cfg r.2.w.ent ∧ ((Forgets cfg name namespace_ → s.w.ent.node.get.1 = none) →
      r.1 = none → SameInUse s.w.ent r.2.w.ent) := by
  dsimp only
  unfold rmwCreateNode
  split
  · rename_i n ns
    split
    · exact ⟨before, fun _ _ => .refl _⟩
    · rename_i named
      rw [not_or] at named
      unfold createNode
      refine Plain.node.acquire_kept (Q := fun r t => Ledger cfg t.w.ent ∧
        ((Forgets cfg (some n) (some ns) → s.w.ent.node.get.1 = none) →
          r = none → SameInUse s.w.ent t.w.ent)) wf.node wf.nodeHandles _ ⟨before, fun _ _ => .refl _⟩
        fun i slot => ?_
      have kept : ∀ {p : Prog (Option Nat)}, Hoare (Plain.node.Held cfg.maxNodes s.w.ent i) p
          (Plain.Kept cfg s.w.ent) → Hoare (Plain.node.Held cfg.maxNodes s.w.ent i) p fun r t =>
            Ledger cfg t.w.ent ∧ ((Forgets cfg (some n) (some ns) → s.w.ent.node.get.1 = none) →
              r = none → SameInUse s.w.ent t.w.ent) :=
        fun h => Triple.weaken h fun _ _ kept => ⟨kept.1, fun _ => kept.2⟩
      refine Triple.ite (fun _ => kept (Plain.Held.fail before fun _ => rfl)) fun long => ?_
      refine Plain.Held.within (still_writeNode i fun _ => rfl) fun _ => ?_
      refine Triple.ite (fun _ => kept (Plain.Held.fail before fun _ => rfl)) fun long' => ?_
      refine Plain.Held.within (still_writeNode i fun _ => rfl) fun _ => ?_
      refine Plain.Held.within (walk_postIncrement still_writeSession _ _ _) fun id => ?_
      refine Plain.Held.within (still_writeNode i fun _ => rfl) fun _ => ?_
      split
      · rename_i none
        have forgets : Forgets cfg (some n) (some ns) :=
          ⟨n, rfl, ns, rfl, named.1, named.2, by omega, by omega, none⟩
        refine Triple.pure fun t h => ⟨(Plain.Held.exit before t h).2.1, fun safe => ?_⟩
        have full : s.w.ent.node.get.1 = Option.none := safe forgets
        exact absurd (slot.symm.trans full) (by simp)
      · refine Plain.Held.within (walk_readElement _ _) fun session => ?_
        refine Plain.Held.within (SendsRequests.asked _ _ _) fun created => ?_
        refine Triple.ite (fun _ => kept (Plain.Held.exit before)) fun _ => ?_
        exact kept (Plain.Held.fail before fun _ => rfl)
  · exact ⟨before, fun _ _ => .refl _⟩

/-- **`rmw_destroy_service`**, on a service in use. -/
theorem rmwDestroyService_ledger (wf : Wf cfg s) (before : Ledger cfg s.w.ent) {n i : Nat}
    (hn : n ∈ s.w.ent.node.elements) (hi : i ∈ s.w.ent.service.elements) :
    Ledger cfg (rmwDestroyService cfg (some n) (some i) s).2.w.ent := by
  rw [(rmwDestroyService_effect wf hn hi).1.ent]
  exact Plain.service.ledger before _

/-- **`rmw_destroy_client`**, on a client in use. -/
theorem rmwDestroyClient_ledger (wf : Wf cfg s) (before : Ledger cfg s.w.ent) {n i : Nat}
    (hn : n ∈ s.w.ent.node.elements) (hi : i ∈ s.w.ent.client.elements) :
    Ledger cfg (rmwDestroyClient cfg (some n) (some i) s).2.w.ent := by
  rw [(rmwDestroyClient_effect wf hn hi).1.ent]
  exact Plain.client.ledger before _

/-- **`rmw_destroy_node`**, on a node in use. -/
theorem rmwDestroyNode_ledger (wf : Wf cfg s) (before : Ledger cfg s.w.ent) {n : Nat}
    (hn : n ∈ s.w.ent.node.elements) : Ledger cfg (rmwDestroyNode cfg (some n) s).2.w.ent := by
  have rule : NodeRule cfg n fun t => Reached cfg s t ∧ Ledger cfg t.w.ent := reached_with hn
    (fun t i wf hn h hi _ => rmwDestroyPublisher_ledger wf h hn hi)
    (fun t i wf hn h hi _ => rmwDestroySubscription_ledger wf h hn hi)
    (fun t i wf hn h hi _ => rmwDestroyService_ledger wf h hn hi)
    fun t i wf hn h hi _ => rmwDestroyClient_ledger wf h hn hi
  obtain ⟨t, ret, ⟨end_, ledger⟩, -, -, e⟩ := rule.run ⟨⟨.refl, wf, rfl, rfl, rfl⟩, before⟩
  have effect := destroyParticipant_effect end_.wf (rule.node t ⟨end_, ledger⟩) ret
  rw [e, effect.ent]
  exact Plain.node.ledger ledger _

end Calls

/-! ## Initialisation -/

/-- The ledger with what an initialisation of the pools needs. -/
structure Pools (cfg : Config) (s : State) : Prop where
  publisher : s.w.ent.publisher.Ok cfg.maxPublishers
  subscription : s.w.ent.subscription.Ok cfg.maxSubscriptions
  ledger : Ledger cfg s.w.ent

theorem Topics.init {size : Nat} {ts : List Nat} {t : Slots Topic} (h : Topics cfg size ts t) :
    Topics cfg cfg.maxTopicsInternal ts (t.init cfg.maxTopicsInternal) := by
  obtain ⟨ok, elements, fixed⟩ := h.ok.init
  exact ⟨ok, fixed, elements.trans h.elements, h.owned⟩

/-- Before its initialisation a pool is empty. -/
theorem Topics.size_le {size : Nat} {ts : List Nat} {t : Slots Topic} (h : Topics cfg size ts t) :
    size ≤ cfg.maxTopicsInternal := by
  rw [← h.size]
  cases hi : t.memory.isInitialized with
  | true => exact (h.ok.size hi).le
  | false =>
    rw [h.ok.fresh hi]
    exact Nat.zero_le _

theorem initPools_hoare : Hoare (Pools cfg) (initPools cfg) fun _ => Pools cfg := .of fun s h => by
  set t := (initPools cfg s).2 with ht
  have topic : t.w.ent.topic = s.w.ent.topic.init cfg.maxTopicsInternal := rfl
  have publisher : t.w.ent.publisher = s.w.ent.publisher.init cfg.maxPublishers := rfl
  have subscription : t.w.ent.subscription = s.w.ent.subscription.init cfg.maxSubscriptions := rfl
  have topics := h.ledger.topics.init
  have elements : (s.w.ent.topic.init cfg.maxTopicsInternal).elements = s.w.ent.topic.elements :=
    topics.elements
  refine ⟨publisher ▸ h.publisher.init.1, subscription ▸ h.subscription.init.1, ?_, ?_, ?_⟩
  · rw [topic, topics.size, elements]
    exact topics
  · rw [Entities.references, publisher, subscription, topic, elements, h.publisher.init.2.1,
      h.subscription.init.2.1]
    exact h.ledger.references
  · intro x hx
    rw [Entities.Mentions, publisher, subscription] at hx
    rw [topic, topics.size]
    exact (h.ledger.bound x hx).trans_le h.ledger.topics.size_le

theorem SessionsOnly.still {s t : State} (h : SessionsOnly s t) : Still s t := by
  obtain ⟨sessions, ent⟩ := h
  constructor <;> rw [ent]
  · exact ⟨.refl _, .refl _, .refl _, .refl _, .refl _, fun _ => rfl, fun _ => rfl⟩
  · exact ⟨rfl, fun _ h => h⟩

/-- **`rmw_init`** -/
theorem rmwInit_hoare (env : InitEnvironment) :
    Hoare (Pools cfg) (rmwInit cfg env) fun _ => Pools cfg := by
  refine rmwInit_rule env (fun s t h only => ?_) initPools_hoare
  have still := only.still
  constructor
  · exact still.pools.publisher.ok h.publisher
  · exact still.pools.subscription.ok h.subscription
  · exact h.ledger.same still.pools still.topics

end RmwMicroxrcedds
