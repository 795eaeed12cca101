import RmwMicroxrcedds.Proof.Cards
import RmwMicroxrcedds.Proof.EndpointLedger

/-!
# How the create functions end

For each create function the list of its ends: what it has drawn, what stands in the slots, and what
it has asked of the agent. Everything that is proved about object ids and about the objects of the
agent follows from these lists.
-/

namespace RmwMicroxrcedds
set_option autoImplicit false

open Triples

variable {cfg : Config} {β : Type}

theorem postIncrement_eq {context : Nat} {counter : Session → Nat} {store : Nat → Session → Session}
    {k : ObjectKind} (counts : ∀ c, counter c = c.counter k)
    (stores : ∀ c, store ((counter c + 1) % 65536) c = c.draw k) :
    postIncrement context counter store = drawId context k := by
  funext s
  set value := counter (s.w.ent.session.custom context) with hvalue
  have run : postIncrement context counter store s =
      (value, s.mapEnt fun e => { e with session := e.session.update context (store ((value + 1) % 65536)) }) :=
    rfl
  have drawn : drawId context k s = ((s.w.ent.session.custom context).counter k,
      s.mapEnt fun e => { e with session := e.session.update context (·.draw k) }) := rfl
  rw [run, drawn, ← counts, ← hvalue]
  simp only [State.mapEnt, Slots.update, hvalue, stores]

theorem postIncrement_idParticipant (context : Nat) :
    (postIncrement context (·.idParticipant) fun v c => { c with idParticipant := v }) =
      drawId context .participant := postIncrement_eq (fun _ => rfl) fun _ => rfl

theorem postIncrement_idTopic (context : Nat) :
    (postIncrement context (·.idTopic) fun v c => { c with idTopic := v }) =
      drawId context .topic := postIncrement_eq (fun _ => rfl) fun _ => rfl

theorem postIncrement_idPublisher (context : Nat) :
    (postIncrement context (·.idPublisher) fun v c => { c with idPublisher := v }) =
      drawId context .publisher := postIncrement_eq (fun _ => rfl) fun _ => rfl

theorem postIncrement_idDatawriter (context : Nat) :
    (postIncrement context (·.idDatawriter) fun v c => { c with idDatawriter := v }) =
      drawId context .datawriter := postIncrement_eq (fun _ => rfl) fun _ => rfl

theorem postIncrement_idSubscriber (context : Nat) :
    (postIncrement context (·.idSubscriber) fun v c => { c with idSubscriber := v }) =
      drawId context .subscriber := postIncrement_eq (fun _ => rfl) fun _ => rfl

theorem postIncrement_idDatareader (context : Nat) :
    (postIncrement context (·.idDatareader) fun v c => { c with idDatareader := v }) =
      drawId context .datareader := postIncrement_eq (fun _ => rfl) fun _ => rfl

theorem postIncrement_idRequester (context : Nat) :
    (postIncrement context (·.idRequester) fun v c => { c with idRequester := v }) =
      drawId context .requester := postIncrement_eq (fun _ => rfl) fun _ => rfl

theorem postIncrement_idReplier (context : Nat) :
    (postIncrement context (·.idReplier) fun v c => { c with idReplier := v }) =
      drawId context .replier := postIncrement_eq (fun _ => rfl) fun _ => rfl

/-- The context of a node. -/
def Entities.contextOf (e : Entities) (n : Nat) : Nat := deref (e.node.custom n).context

/-- The id the next object of a kind is given in a context. -/
def Entities.nextId (e : Entities) (c : Nat) (k : ObjectKind) : UxrObjectId :=
  ⟨(e.session.custom c).counter k, k⟩

/-- The creation stream of a context is reliable. -/
def State.Reliable (s : State) (c : Nat) : Prop :=
  (s.w.ent.session.custom c).creationStream ≠ .bestEffort

/-! ## Topics -/

/-- What `create_topic` writes. -/
def namedTopic (n : Nat) (members : MessageTypeSupportCallbacks) (id : UxrObjectId) (t : Topic) : Topic :=
  { t with ownerNode := some n, messageTypeSupportCallbacks := some members, topicId := id }

section Topics

variable {n : Nat} {name : CStr} {members : MessageTypeSupportCallbacks} {s₀ : State}

/-- How `create_topic` ends. -/
inductive TopicEnd (cfg : Config) (n : Nat) (name : CStr) (members : MessageTypeSupportCallbacks)
    (s₀ : State) : Option Nat → List ObjectKind → Slots Topic → List (XrceRequest × Bool) → Prop
  /-- no slot is free -/
  | full (slot : s₀.w.ent.topic.get.1 = none) :
    TopicEnd cfg n name members s₀ none [] s₀.w.ent.topic.get.2 []
  /-- a name does not fit -/
  | unfit (x : Nat) (slot : s₀.w.ent.topic.get.1 = some x)
    (text : topicRequest cfg (s₀.w.ent.nextId (s₀.w.ent.contextOf n) .topic)
      (s₀.w.ent.node.custom n).participantId name members = none) :
    TopicEnd cfg n name members s₀ none [.topic]
      ((s₀.w.ent.topic.get.2.update x (namedTopic n members
        (s₀.w.ent.nextId (s₀.w.ent.contextOf n) .topic))).finiTopic x) []
  /-- the agent refuses -/
  | refused (x : Nat) (slot : s₀.w.ent.topic.get.1 = some x) (request : XrceRequest)
    (text : topicRequest cfg (s₀.w.ent.nextId (s₀.w.ent.contextOf n) .topic)
      (s₀.w.ent.node.custom n).participantId name members = some request)
    (answer : s₀.Reliable (s₀.w.ent.contextOf n) → confirms s₀.agent = false) :
    TopicEnd cfg n name members s₀ none [.topic]
      ((s₀.w.ent.topic.get.2.update x (namedTopic n members
        (s₀.w.ent.nextId (s₀.w.ent.contextOf n) .topic))).finiTopic x) [(request, false)]
  | made (x : Nat) (slot : s₀.w.ent.topic.get.1 = some x) (request : XrceRequest)
    (text : topicRequest cfg (s₀.w.ent.nextId (s₀.w.ent.contextOf n) .topic)
      (s₀.w.ent.node.custom n).participantId name members = some request)
    (answer : s₀.Reliable (s₀.w.ent.contextOf n) → confirms s₀.agent = true) :
    TopicEnd cfg n name members s₀ (some x) [.topic]
      (s₀.w.ent.topic.get.2.update x (namedTopic n members
        (s₀.w.ent.nextId (s₀.w.ent.contextOf n) .topic))) [(request, true)]

variable {k : Kind β} {u : Slots β}

theorem Spent.node {ks : List ObjectKind} {ts : Slots Topic} {rs : List (XrceRequest × Bool)} {c : Nat}
    {s : State} (nodes : ∀ t e, (k.withSlots t e).node = e.node) (h : Spent k c s₀ ks u ts rs s) :
    s.w.ent.node = s₀.w.ent.node := by rw [h.ent, Kind.spent, nodes]

/-- The context of a node. -/
theorem Spent.context {ks : List ObjectKind} {ts : Slots Topic} {rs : List (XrceRequest × Bool)}
    {c : Nat} {γ : Type} {rest : Nat → Prog γ} {Q : γ → State → Prop}
    (nodes : ∀ t e, (k.withSlots t e).node = e.node) (n : Nat)
    (next : Hoare (Spent k c s₀ ks u ts rs) (rest (s₀.w.ent.contextOf n)) Q) :
    Hoare (Spent k c s₀ ks u ts rs) (RmwMicroxrcedds.contextOf n >>= rest) Q :=
  Spent.read (fun s h => by
    rw [Entities.contextOf, ← h.node nodes]
    rfl) next

/-- The fields of a node. -/
theorem Spent.readNode {ks : List ObjectKind} {ts : Slots Topic} {rs : List (XrceRequest × Bool)}
    {c : Nat} {γ : Type} {rest : Node → Prog γ} {Q : γ → State → Prop}
    (nodes : ∀ t e, (k.withSlots t e).node = e.node) (n : Nat)
    (next : Hoare (Spent k c s₀ ks u ts rs) (rest (s₀.w.ent.node.custom n)) Q) :
    Hoare (Spent k c s₀ ks u ts rs) (readElement .node n >>= rest) Q :=
  Spent.read (fun s h => by
    rw [readElement_run, ← h.node nodes]
    rfl) next

/-- `create_topic` from the slot on. -/
theorem createTopicBody_ends (aside : k.Aside) (nodes : ∀ t e, (k.withSlots t e).node = e.node)
    {x : Nat} {ts : Slots Topic} :
    Hoare (Spent k (s₀.w.ent.contextOf n) s₀ [] u ts []) (createTopicBody cfg n name members x)
      fun created s => match topicRequest cfg (s₀.w.ent.nextId (s₀.w.ent.contextOf n) .topic)
          (s₀.w.ent.node.custom n).participantId name members with
        | none => created = false ∧ Spent k (s₀.w.ent.contextOf n) s₀ [.topic] u
            (ts.update x (namedTopic n members (s₀.w.ent.nextId (s₀.w.ent.contextOf n) .topic))) [] s
        | some request => Spent k (s₀.w.ent.contextOf n) s₀ [.topic] u
            (ts.update x (namedTopic n members (s₀.w.ent.nextId (s₀.w.ent.contextOf n) .topic)))
            [(request, created)] s ∧
          (s₀.Reliable (s₀.w.ent.contextOf n) → created = confirms s₀.agent) := by
  simp only [createTopicBody, postIncrement_idTopic]
  refine Spent.writeTopic aside x _ ?_
  refine Spent.context nodes n ?_
  refine Spent.draw aside (by simp) ?_
  refine Spent.writeTopic aside x _ ?_
  refine Spent.readNode nodes n ?_
  rw [Slots.update_update]
  show Hoare (Spent k _ s₀ [.topic] u (ts.update x (namedTopic n members _)) []) _ _
  cases text : topicRequest cfg (s₀.w.ent.nextId (s₀.w.ent.contextOf n) .topic)
    (s₀.w.ent.node.custom n).participantId name members with
  | none =>
    have text' : topicRequest cfg ⟨(s₀.w.ent.session.custom (s₀.w.ent.contextOf n)).counter .topic, .topic⟩
      (s₀.w.ent.node.custom n).participantId name members = none := text
    rw [text']
    exact Triple.pure fun s h => ⟨rfl, h⟩
  | some request =>
    have text' : topicRequest cfg ⟨(s₀.w.ent.session.custom (s₀.w.ent.contextOf n)).counter .topic, .topic⟩
      (s₀.w.ent.node.custom n).participantId name members = some request := text
    rw [text']
    refine Spent.stream aside ?_
    rw [Session.drawn_creationStream]
    exact Spent.ask cfg request

/-- `create_topic`. -/
theorem createTopic_ends (aside : k.Aside) (nodes : ∀ t e, (k.withSlots t e).node = e.node) :
    Hoare (Spent k (s₀.w.ent.contextOf n) s₀ [] u s₀.w.ent.topic []) (createTopic cfg n name members)
      fun topic s => ∃ ks ts rs, TopicEnd cfg n name members s₀ topic ks ts rs ∧
        Spent k (s₀.w.ent.contextOf n) s₀ ks u ts rs s := by
  unfold createTopic
  refine Spent.take aside ?_
  cases slot : s₀.w.ent.topic.get.1 with
  | none => exact Triple.pure fun s h => ⟨[], _, [], .full slot, h⟩
  | some x =>
    refine Triple.bind (createTopicBody_ends aside nodes) fun created => ?_
    cases text : topicRequest cfg (s₀.w.ent.nextId (s₀.w.ent.contextOf n) .topic)
      (s₀.w.ent.node.custom n).participantId name members with
    | none =>
      refine Triple.and_left fun failed => ?_
      rw [failed]
      refine Spent.finiTopic aside x (Triple.pure fun s h => ?_)
      exact ⟨_, _, _, .unfit x slot text, h⟩
    | some request =>
      refine Triple.of_pre fun s h => ?_
      cases created with
      | true =>
        refine Triple.pure fun s' same => ?_
        subst same
        exact ⟨_, _, _, .made x slot request text fun reliable => (h.2 reliable).symm, h.1⟩
      | false =>
        refine Triple.strengthen (Spent.finiTopic aside x (Triple.pure fun s h' => ?_))
          fun s' same => same ▸ h.1
        exact ⟨_, _, _, .refused x slot request text fun reliable => (h.2 reliable).symm, h'⟩

end Topics

/-! ## Publishers and subscriptions -/

/-- The two objects of an endpoint, one of which hangs under the other. -/
structure TwoObjects (β : Type) [Element β] where
  ep : Endpoint β
  outer : ObjectKind
  inner : ObjectKind
  outerId : β → UxrObjectId
  innerId : β → UxrObjectId
  withOuter : UxrObjectId → β → β
  withInner : UxrObjectId → β → β
  ownerNode : β → Option Nat
  profile : CStr → Nat → Bool × CStr
  mark : Nat → Ghost → Ghost
  label : CStr → Nat → RmwQosProfile → β → β
  support : Option MessageTypeSupportCallbacks → β → β
  aside : ep.kind.Aside
  nodes : ∀ t e, (ep.kind.withSlots t e).node = e.node
  kinds : [.topic, outer, inner].Nodup
  ends : .participant ∉ [outer, inner]
  outerId_withOuter : ∀ x b, outerId (withOuter x b) = x
  outerId_withInner : ∀ x b, outerId (withInner x b) = outerId b
  innerId_withInner : ∀ x b, innerId (withInner x b) = x
  topic_withOuter : ∀ x b, ep.topic (withOuter x b) = ep.topic b
  topic_withInner : ∀ x b, ep.topic (withInner x b) = ep.topic b
  handle_withOuter : ∀ x b, Element.handle (withOuter x b) = Element.handle b
  handle_withInner : ∀ x b, Element.handle (withInner x b) = Element.handle b
  owner_withOuter : ∀ x b, ownerNode (withOuter x b) = ownerNode b
  owner_withInner : ∀ x b, ownerNode (withInner x b) = ownerNode b
  owner_withTopic : ∀ x b, ownerNode (ep.withTopic x b) = ownerNode b
  handle_label : ∀ name n qos b, Element.handle (label name n qos b) = Element.handle b
  handle_support : ∀ m b, Element.handle (support m b) = Element.handle b
  topic_label : ∀ name n qos b, ep.topic (label name n qos b) = ep.topic b
  topic_support : ∀ m b, ep.topic (support m b) = ep.topic b
  owner_label : ∀ name n qos b, ownerNode (label name n qos b) = some n
  owner_support : ∀ m b, ownerNode (support m b) = ownerNode b
  cards_outer : ∀ e : Entities, e.cards outer = (ep.kind.slots e).cards ownerNode outerId
  cards_inner : ∀ e : Entities, e.cards inner = (ep.kind.slots e).cards ownerNode innerId
  cards_others : ∀ (e : Entities) u s t k, k ∉ [outer, inner] → k ≠ .topic →
    (ep.kind.withSlots u { e with session := s, topic := t }).cards k = e.cards k

namespace TwoObjects

def publisher : TwoObjects Publisher where
  ep := .publisher
  outer := .publisher
  inner := .datawriter
  outerId := (·.publisherId)
  innerId := (·.datawriterId)
  withOuter x p := { p with publisherId := x }
  withInner x p := { p with datawriterId := x }
  ownerNode := (·.ownerNode)
  profile := buildDatawriterProfile
  mark _ := id
  label name n qos p :=
    { p with
      topicName := name
      ownerNode := some n
      qos := qos
      streamId := if qos.reliability = .bestEffort then .bestEffort else .reliable }
  support m p := { p with typeSupportCallbacks := m }
  aside := ⟨fun _ _ => rfl, fun _ _ => rfl, fun _ _ _ => rfl, fun _ _ _ => rfl⟩
  nodes _ _ := rfl
  kinds := by decide
  ends := by decide
  outerId_withOuter _ _ := rfl
  outerId_withInner _ _ := rfl
  innerId_withInner _ _ := rfl
  topic_withOuter _ _ := rfl
  topic_withInner _ _ := rfl
  handle_withOuter _ _ := rfl
  handle_withInner _ _ := rfl
  owner_withOuter _ _ := rfl
  owner_withInner _ _ := rfl
  owner_withTopic _ _ := rfl
  handle_label _ _ _ _ := rfl
  handle_support _ _ := rfl
  topic_label _ _ _ _ := rfl
  topic_support _ _ := rfl
  owner_label _ _ _ _ := rfl
  owner_support _ _ := rfl
  cards_outer _ := rfl
  cards_inner _ := rfl
  cards_others e u s t k hk ht := by
    cases k <;> first | rfl | exact absurd rfl ht | simp at hk

def subscription : TwoObjects Subscription where
  ep := .subscription
  outer := .subscriber
  inner := .datareader
  outerId := (·.subscriberId)
  innerId := (·.datareaderId)
  withOuter x p := { p with subscriberId := x }
  withInner x p := { p with datareaderId := x }
  ownerNode := (·.ownerNode)
  profile := buildDatareaderProfile
  mark i := (·.given (.subscription i))
  label name n qos p := { p with topicName := name, ownerNode := some n, qos := qos }
  support m p := { p with typeSupportCallbacks := m }
  aside := ⟨fun _ _ => rfl, fun _ _ => rfl, fun _ _ _ => rfl, fun _ _ _ => rfl⟩
  nodes _ _ := rfl
  kinds := by decide
  ends := by decide
  outerId_withOuter _ _ := rfl
  outerId_withInner _ _ := rfl
  innerId_withInner _ _ := rfl
  topic_withOuter _ _ := rfl
  topic_withInner _ _ := rfl
  handle_withOuter _ _ := rfl
  handle_withInner _ _ := rfl
  owner_withOuter _ _ := rfl
  owner_withInner _ _ := rfl
  owner_withTopic _ _ := rfl
  handle_label _ _ _ _ := rfl
  handle_support _ _ := rfl
  topic_label _ _ _ _ := rfl
  topic_support _ _ := rfl
  owner_label _ _ _ _ := rfl
  owner_support _ _ := rfl
  cards_outer _ := rfl
  cards_inner _ := rfl
  cards_others e u s t k hk ht := by
    cases k <;> first | rfl | exact absurd rfl ht | simp at hk

variable [Element β] (two : TwoObjects β)

/-- The endpoints as bearers of their objects. -/
def bearer : Bearer β where
  kind := two.ep.kind
  parent := two.ownerNode
  objects := [two.outer, two.inner]
  id k b := if k = two.outer then two.outerId b else two.innerId b
  own e k hk := by
    have ne : two.inner ≠ two.outer := by
      have kinds := two.kinds
      simp only [List.nodup_cons, List.mem_cons, List.not_mem_nil, or_false] at kinds
      exact fun e => kinds.2.1 e.symm
    simp only [List.mem_cons, List.not_mem_nil, or_false] at hk
    rcases hk with rfl | rfl
    · simpa using two.cards_outer e
    · simpa [ne] using two.cards_inner e
  others := two.cards_others

/-- The creation of the two objects. -/
def create (cfg : Config) (n : Nat) (name : CStr) (i : Nat) : Prog Bool := do
  let context ← contextOf n
  let id ← drawId context two.outer
  writeElement two.ep.kind i (two.withOuter ⟨id, two.outer⟩)
  let participant := (← readElement .node n).participantId
  if ← runCreation cfg context ⟨id, two.outer⟩ participant [] then
    let inner ← drawId context two.inner
    writeElement two.ep.kind i (two.withInner ⟨inner, two.inner⟩)
    modify (·.mapGhost (two.mark i))
    match endpointTexts cfg two.profile name with
    | none => return false
    | some texts => runCreation cfg context ⟨inner, two.inner⟩ ⟨id, two.outer⟩ texts
  else return false

/-- The topic and the two objects. -/
def createAll (cfg : Config) (n : Nat) (name : CStr) (members : MessageTypeSupportCallbacks)
    (i : Nat) : Prog Bool := do
  let topic ← createTopic cfg n name members
  writeElement two.ep.kind i (two.ep.withTopic topic)
  if topic.isSome then two.create cfg n name i
  else return false

end TwoObjects

theorem createPublisherObjects_eq (n : Nat) (name : CStr) (i : Nat) :
    createPublisherObjects cfg n name i = TwoObjects.publisher.create cfg n name i := by
  have unmarked : ∀ {p : Prog Bool},
      (modify (·.mapGhost (TwoObjects.publisher.mark i)) >>= fun _ => p) = p := rfl
  simp only [createPublisherObjects, postIncrement_idPublisher, postIncrement_idDatawriter,
    TwoObjects.create, unmarked]
  rfl

theorem createSubscriptionObjects_eq (n : Nat) (name : CStr) (i : Nat) :
    createSubscriptionObjects cfg n name i = TwoObjects.subscription.create cfg n name i := by
  simp only [createSubscriptionObjects, postIncrement_idSubscriber, postIncrement_idDatareader]
  rfl

namespace TwoObjects

variable [Element β] (two : TwoObjects β)

/-- The request for the outer object of an endpoint of the node. -/
def outerRequest (e : Entities) (n : Nat) : XrceRequest :=
  .create (e.nextId (e.contextOf n) two.outer) (some (e.node.custom n).participantId) []

/-- The request for the inner object. -/
def innerRequest (e : Entities) (n : Nat) (texts : List CStr) : XrceRequest :=
  .create (e.nextId (e.contextOf n) two.inner) (some (e.nextId (e.contextOf n) two.outer)) texts

/-- The slot with the ids of both objects. -/
def named (e : Entities) (n : Nat) (b : β) : β :=
  two.withInner (e.nextId (e.contextOf n) two.inner)
    (two.withOuter (e.nextId (e.contextOf n) two.outer) b)

section Ends

variable {n i : Nat} {name : CStr} {members : MessageTypeSupportCallbacks} {s₀ : State}
  {u : Slots β}

/-- How the creation of a topic and the two objects ends, on the slot `i` of the pool `u`. -/
inductive End (cfg : Config) (n i : Nat) (name : CStr) (members : MessageTypeSupportCallbacks)
    (s₀ : State) (u : Slots β) :
    Bool → List ObjectKind → Slots β → Slots Topic → List (XrceRequest × Bool) → Prop
  /-- there is no topic -/
  | topicless {ks : List ObjectKind} {ts : Slots Topic} {rs : List (XrceRequest × Bool)}
    (topic : TopicEnd cfg n name members s₀ none ks ts rs) :
    End cfg n i name members s₀ u false ks (u.update i (two.ep.withTopic none)) ts rs
  /-- the agent refuses the outer object -/
  | alone {x : Nat} {ts : Slots Topic} {rs : List (XrceRequest × Bool)}
    (topic : TopicEnd cfg n name members s₀ (some x) [.topic] ts rs)
    (answer : s₀.Reliable (s₀.w.ent.contextOf n) → confirms (s₀.agent.drop 1) = false) :
    End cfg n i name members s₀ u false [.topic, two.outer]
      (u.update i fun b => two.withOuter (s₀.w.ent.nextId (s₀.w.ent.contextOf n) two.outer)
        (two.ep.withTopic (some x) b)) ts ((two.outerRequest s₀.w.ent n, false) :: rs)
  /-- the name of the inner object does not fit -/
  | unnamed {x : Nat} {ts : Slots Topic} {rs : List (XrceRequest × Bool)}
    (topic : TopicEnd cfg n name members s₀ (some x) [.topic] ts rs)
    (text : endpointTexts cfg two.profile name = none) :
    End cfg n i name members s₀ u false [.topic, two.outer, two.inner]
      (u.update i fun b => two.named s₀.w.ent n (two.ep.withTopic (some x) b)) ts
      ((two.outerRequest s₀.w.ent n, true) :: rs)
  /-- the agent is asked for everything -/
  | asked {x : Nat} {ts : Slots Topic} {rs : List (XrceRequest × Bool)} {created : Bool}
    (topic : TopicEnd cfg n name members s₀ (some x) [.topic] ts rs) (texts : List CStr)
    (text : endpointTexts cfg two.profile name = some texts)
    (answer : s₀.Reliable (s₀.w.ent.contextOf n) → created = confirms (s₀.agent.drop 2)) :
    End cfg n i name members s₀ u created [.topic, two.outer, two.inner]
      (u.update i fun b => two.named s₀.w.ent n (two.ep.withTopic (some x) b)) ts
      ((two.innerRequest s₀.w.ent n texts, created) :: (two.outerRequest s₀.w.ent n, true) :: rs)

theorem TopicEnd.length {x : Nat} {ks : List ObjectKind} {ts : Slots Topic}
    {rs : List (XrceRequest × Bool)} (h : TopicEnd cfg n name members s₀ (some x) ks ts rs) :
    ks = [.topic] ∧ rs.length = 1 := by
  cases h
  exact ⟨rfl, rfl⟩

theorem createAll_ends :
    Hoare (Spent two.ep.kind (s₀.w.ent.contextOf n) s₀ [] u s₀.w.ent.topic [])
      (two.createAll cfg n name members i)
      fun created s => ∃ ks u' ts rs, two.End cfg n i name members s₀ u created ks u' ts rs ∧
        Spent two.ep.kind (s₀.w.ent.contextOf n) s₀ ks u' ts rs s := by
  unfold createAll
  refine Triple.bind (createTopic_ends two.aside two.nodes) fun topic => ?_
  refine Triple.exists_pre fun ks => Triple.exists_pre fun ts => Triple.exists_pre fun rs => ?_
  refine Triple.and_left fun made => Spent.write i _ ?_
  cases topic with
  | none => exact Triple.pure fun s h => ⟨_, _, _, _, .topicless made, h⟩
  | some x =>
    obtain ⟨rfl, length⟩ := TopicEnd.length made
    rw [if_pos (by rfl)]
    unfold create
    have kinds := two.kinds
    simp only [List.nodup_cons, List.mem_cons, List.not_mem_nil, or_false, not_or] at kinds
    refine Spent.context two.nodes n ?_
    refine Spent.draw two.aside (by simpa using fun e => kinds.1.1 e.symm) (Spent.write i _ ?_)
    refine Spent.readNode two.nodes n ?_
    refine Triple.bind (Spent.create two.aside cfg _ _ _) fun outer => Triple.of_pre fun s h => ?_
    cases outer with
    | false =>
      refine Triple.pure fun s' same => ?_
      subst same
      rw [length, Slots.update_update] at h
      exact ⟨_, _, _, _, .alone made fun reliable => (h.2 reliable).symm, h.1⟩
    | true =>
      refine Triple.strengthen ?_ fun s' same => same ▸ h.1
      rw [if_pos rfl]
      refine Spent.draw two.aside ?_ (Spent.write i _ (Spent.ghost _ ?_))
      · simpa using ⟨fun e => kinds.1.2 e.symm, fun e => kinds.2.1 e.symm⟩
      · rw [Slots.update_update, Slots.update_update]
        cases text : endpointTexts cfg two.profile name with
        | none => exact Triple.pure fun s h => ⟨_, _, _, _, .unnamed made text, h⟩
        | some texts =>
          refine Triple.weaken (Spent.create two.aside cfg _ _ _) fun created s h => ?_
          rw [List.length_cons, length] at h
          exact ⟨_, _, _, _, .asked made texts text h.2, h.1⟩

end Ends

end TwoObjects

end RmwMicroxrcedds
