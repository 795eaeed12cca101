import RmwMicroxrcedds.Proof.CreationEnds
import RmwMicroxrcedds.Proof.Quiet
import RmwMicroxrcedds.Proof.Shutdowns

/-!
# The owners of topics

A topic in use and the endpoint that refers to it belong to the same node. Creations that succeed
write the same node to both, destructions release both, and the other calls write to neither. With
the ledger this says which topics the destruction of a node releases.
-/

namespace RmwMicroxrcedds
set_option autoImplicit false

open Triples

variable {cfg : Config} {α β : Type}

/-! ## The ledger with owners -/

/-- An endpoint in use belongs to the node of its topic. -/
def TwoObjects.Owns [Element β] (two : TwoObjects β) (e : Entities) : Prop :=
  ∀ i ∈ (two.ep.kind.slots e).elements, ∀ x, two.ep.topicOf e i = some x →
    (e.topic.custom x).ownerNode = two.ownerNode ((two.ep.kind.slots e).custom i)

/-- The two sides of the ledger agree on the owners, too. -/
structure Matched (cfg : Config) (e : Entities) : Prop where
  ledger : Ledger cfg e
  publisher : TwoObjects.publisher.Owns e
  subscription : TwoObjects.subscription.Owns e

theorem matched_zero (cfg : Config) : Matched cfg Entities.zero where
  ledger := ledger_zero cfg
  publisher _ _ _ topic := nomatch topic
  subscription _ _ _ topic := nomatch topic

section Owns

variable [Element β] {two : TwoObjects β} {e e' : Entities}

/-- The endpoints left are as they were, and so are the owners of their topics. -/
theorem TwoObjects.Owns.mono (h : two.Owns e)
    (same : ∀ i ∈ (two.ep.kind.slots e').elements, i ∈ (two.ep.kind.slots e).elements ∧
      (two.ep.kind.slots e').custom i = (two.ep.kind.slots e).custom i)
    (topics : ∀ i ∈ (two.ep.kind.slots e').elements, ∀ x, two.ep.topicOf e i = some x →
      (e'.topic.custom x).ownerNode = (e.topic.custom x).ownerNode) : two.Owns e' := by
  intro i hi x topic
  obtain ⟨before, custom⟩ := same i hi
  rw [Endpoint.topicOf, custom] at topic
  rw [topics i hi x topic, h i before x topic, custom]

theorem TwoObjects.Owns.congr (h : two.Owns e) (slots : two.ep.kind.slots e' = two.ep.kind.slots e)
    (topics : ∀ i ∈ (two.ep.kind.slots e).elements, ∀ x, two.ep.topicOf e i = some x →
      (e'.topic.custom x).ownerNode = (e.topic.custom x).ownerNode) : two.Owns e' := by
  apply h.mono
  · rw [slots]
    exact fun i hi => ⟨hi, rfl⟩
  · rw [slots]
    exact topics

end Owns

theorem Matched.of_endpoints {e e' : Entities} (h : Matched cfg e)
    (publisher : e'.publisher = e.publisher) (subscription : e'.subscription = e.subscription)
    (topic : e'.topic = e.topic) : Matched cfg e' where
  ledger := h.ledger.of_endpoints publisher subscription topic
  publisher := h.publisher.congr publisher fun _ _ _ _ => by rw [topic]
  subscription := h.subscription.congr subscription fun _ _ _ _ => by rw [topic]

/-! ## Endpoints have topics of their own -/

namespace Endpoint

variable [Element β] (ep : Endpoint β) {e : Entities} {i j : Nat}

theorem references_nodup (ledger : Ledger cfg e) :
    ((ep.kind.slots e).elements.map (ep.topicOf e) ++
      (ep.restElements e).map (ep.restTopic e)).Nodup := by
  have topics : (e.topic.elements.map some).Nodup :=
    ledger.topics.ok.nodup.map fun _ _ => Option.some.inj
  exact (ep.references_perm e).nodup_iff.1 (ledger.references.nodup_iff.2 topics)

/-- Two endpoints of a kind do not share a topic. -/
theorem topicOf_inj (ledger : Ledger cfg e) (hi : i ∈ (ep.kind.slots e).elements)
    (hj : j ∈ (ep.kind.slots e).elements) (same : ep.topicOf e j = ep.topicOf e i) : j = i := by
  have nodup := (List.nodup_append.1 (ep.references_nodup ledger)).1
  exact List.inj_on_of_nodup_map nodup hj hi same

/-- Nor do endpoints of different kinds. -/
theorem restTopic_ne (ledger : Ledger cfg e) (hi : i ∈ (ep.kind.slots e).elements)
    (hj : j ∈ ep.restElements e) : ep.restTopic e j ≠ ep.topicOf e i := fun same =>
  (List.nodup_append.1 (ep.references_nodup ledger)).2.2 _ (List.mem_map_of_mem hi) _
    (List.mem_map_of_mem hj) same.symm

/-- The topics in use are those the endpoints in use refer to. -/
theorem topicOf_of_mem (ledger : Ledger cfg e) {x : Nat} (hx : x ∈ e.topic.elements) :
    (∃ i ∈ (ep.kind.slots e).elements, ep.topicOf e i = some x) ∨
      ∃ i ∈ ep.restElements e, ep.restTopic e i = some x := by
  have mem : some x ∈ e.references := ledger.references.mem_iff.2 (List.mem_map_of_mem hx)
  rw [(ep.references_perm e).mem_iff, List.mem_append, List.mem_map, List.mem_map] at mem
  exact mem

end Endpoint

/-! ## Creations -/

/-- An endpoint of the node `n` has been created, with a topic. -/
structure TwoObjects.Made [Element β] (two : TwoObjects β) (n i x : Nat) (s t : State) : Prop where
  slot : (two.ep.kind.slots s.w.ent).get.1 = some i
  topicSlot : s.w.ent.topic.get.1 = some x
  ent : ∃ c ks, ∃ f : β → β, ∃ g : Topic → Topic, t.w.ent = two.ep.kind.spent c ks
      (((two.ep.kind.slots s.w.ent).opened i id).update i f) (s.w.ent.topic.get.2.update x g) s.w.ent ∧
    (∀ b, Element.handle (f b) = Element.handle b) ∧ (∀ b, two.ep.topic (f b) = some x) ∧
    (∀ b, two.ownerNode (f b) = some n) ∧ ∀ b, (g b).ownerNode = some n

theorem samePools_aside (e : Entities) (s : Slots Session) (t : Slots Topic) :
    SamePools e { e with session := s, topic := t } :=
  ⟨.refl _, .refl _, .refl _, .refl _, .refl _, fun _ => rfl, fun _ => rfl⟩

namespace TwoObjects

variable [Element β] {two : TwoObjects β} {n i x size : Nat} {name : CStr} {s t : State}
  {typeSupport : TypeSupport MessageTypeSupportCallbacks} {qosPolicies : RmwQosProfile}

theorem BodyEnd.made {c : Nat} {ks : List ObjectKind} {u' : Slots β} {ts : Slots Topic}
    {rs : List (XrceRequest × Bool)} (slot : (two.ep.kind.slots s.w.ent).get.1 = some i)
    (end_ : two.BodyEnd cfg n i name typeSupport s ((two.ep.kind.slots s.w.ent).opened i id) true ks u'
      ts rs) (h : Spent two.ep.kind c s ks u' ts rs t) : ∃ x, two.Made n i x s t := by
  cases end_ with
  | late f handle owner members callbacks fits end_ =>
    cases end_ with
    | @asked x _ _ _ topic texts text answer =>
      cases topic with
      | made _ topicSlot request text answer =>
        rw [Slots.update_update] at h
        refine ⟨x, slot, topicSlot, _, _, _, _, h.ent, fun b => ?_, fun b => ?_, fun b => ?_, fun _ => rfl⟩
        · rw [handle_named, handle]
        · exact topic_named
        · rw [owner_named, owner]

/-- From the element on, the create function fails or leaves an endpoint. -/
theorem held_made (slot : (two.ep.kind.slots s.w.ent).get.1 = some i) :
    Hoare (Spent two.ep.kind (s.w.ent.contextOf n) s [] ((two.ep.kind.slots s.w.ent).opened i id)
        s.w.ent.topic [])
      (do
        if ← two.body cfg n typeSupport name qosPolicies i then return some i
        else
          two.ep.fail i
          return none)
      fun r t => r ≠ none → ∃ x, two.Made n i x s t := by
  refine Triple.bind two.body_ends fun created => ?_
  cases created with
  | true =>
    refine Triple.pure fun t ⟨ks, u', ts, rs, end_, h⟩ _ => ?_
    exact end_.made slot h
  | false => exact Hoare.of fun t _ failed => absurd rfl failed

/-- Both sides of the ledger enter with the same owner. -/
theorem Made.owns (before : Ledger cfg s.w.ent) (owns : two.Owns s.w.ent)
    (ok : (two.ep.kind.slots s.w.ent).Ok size) (hs : Handles (two.ep.kind.slots s.w.ent))
    (h : two.Made n i x s t) : Ledger cfg t.w.ent ∧ two.Owns t.w.ent ∧
      ∀ y ∈ s.w.ent.topic.elements,
        (t.w.ent.topic.custom y).ownerNode = (s.w.ent.topic.custom y).ownerNode := by
  obtain ⟨c, ks, f, g, ent, handle, topic, owner, topicOwner⟩ := h.ent
  obtain ⟨ok', elements, custom⟩ := ok.opened_update h.slot id f
  obtain ⟨-, fresh, -, -⟩ := ok.get_some h.slot
  obtain ⟨-, freshTopic, -, -⟩ := before.topics.ok.get_some h.topicSlot
  have own := Slots.update_custom_self ((two.ep.kind.slots s.w.ent).opened i id) i f
  have slots : two.ep.kind.slots t.w.ent = ((two.ep.kind.slots s.w.ent).opened i id).update i f := by
    rw [ent, Kind.spent_slots]
  have topics : t.w.ent.topic = s.w.ent.topic.get.2.update x g := by
    rw [ent, two.aside.spent_topic]
  have others : ∀ y ∈ s.w.ent.topic.elements, t.w.ent.topic.custom y = s.w.ent.topic.custom y := by
    intro y hy
    have ne : y ≠ x := by
      rintro rfl
      exact freshTopic hy
    rw [topics, Slots.update_custom_of_ne _ _ ne, Slots.get_custom]
  refine ⟨?_, ?_, fun y hy => by rw [others y hy]⟩
  · apply two.ep.ledger_created (i := i) (n := size) (x := x) before
    · constructor
      · exact slots ▸ ok'
      · exact slots ▸ (hs.opened ok h.slot id).update i handle
      · exact fresh
      · exact slots ▸ elements
      · rw [Endpoint.topicOf, slots, own, topic]
      · intro j ne
        rw [Endpoint.topicOf, slots, Slots.update_custom_of_ne _ _ ne, Slots.opened,
          Slots.update_custom_of_ne _ _ ne, Slots.get_custom, Endpoint.topicOf]
      · rw [ent, Kind.spent, two.ep.restElements_withSlots, two.ep.restElements_same (samePools_aside _ _ _)]
      · rw [ent, Kind.spent, two.ep.restTopic_withSlots, two.ep.restTopic_same (samePools_aside _ _ _)]
    · rw [topics]
      exact before.topics.take h.topicSlot fun b => by simp [topicOwner b]
  · intro j hj y shown
    rw [slots, elements, List.mem_cons] at hj
    rcases hj with rfl | hj
    · rw [Endpoint.topicOf, slots, own, topic] at shown
      obtain rfl := Option.some.inj shown
      rw [topics, Slots.update_custom_self, topicOwner, slots, own, owner]
    · rw [Endpoint.topicOf, slots, custom j hj] at shown
      obtain ⟨z, hz, e⟩ := two.ep.topicOf_mem before hj
      obtain rfl : z = y := Option.some.inj (e.symm.trans shown)
      rw [others z hz, slots, custom j hj]
      exact owns j hj z e

end TwoObjects

section Create

variable {s : State} (wf : Wf cfg s) (before : Matched cfg s.w.ent) (node : Option Nat)
  (typeSupport : Option (TypeSupport MessageTypeSupportCallbacks)) (topicName : Option CStr)
  (qosPolicies : Option RmwQosProfile)

include wf before

/-- **`rmw_create_publisher`** -/
theorem rmwCreatePublisher_matched :
    let r := rmwCreatePublisher cfg node typeSupport topicName qosPolicies s
    r.1 ≠ none → Matched cfg r.2.w.ent := by
  apply rmwCreatePublisher_rule wf node typeSupport topicName qosPolicies
    (Q := fun r t => r ≠ none → Matched cfg t.w.ent)
  · exact fun failed => absurd rfl failed
  · intro n ts name qos i _ _ _ _ _ slot
    refine Triple.weaken (TwoObjects.publisher.held_made slot) fun r t made created => ?_
    obtain ⟨x, h⟩ := made created
    obtain ⟨ledger, owns, topics⟩ :=
      h.owns before.ledger before.publisher wf.publisher wf.publisherHandles
    refine ⟨ledger, owns, before.subscription.congr ?_ fun j hj y shown => ?_⟩
    · obtain ⟨c, ks, f, g, ent, -⟩ := h.ent
      rw [ent]
      rfl
    · obtain ⟨z, hz, e⟩ := Endpoint.subscription.topicOf_mem before.ledger hj
      obtain rfl : z = y := Option.some.inj (e.symm.trans shown)
      exact topics z hz

/-- **`rmw_create_subscription`** -/
theorem rmwCreateSubscription_matched :
    let r := rmwCreateSubscription cfg node typeSupport topicName qosPolicies s
    r.1 ≠ none → Matched cfg r.2.w.ent := by
  apply rmwCreateSubscription_rule wf node typeSupport topicName qosPolicies
    (Q := fun r t => r ≠ none → Matched cfg t.w.ent)
  · exact fun failed => absurd rfl failed
  · intro n ts name qos i _ _ _ _ _ slot
    refine Triple.weaken (TwoObjects.subscription.held_made slot) fun r t made created => ?_
    obtain ⟨x, h⟩ := made created
    obtain ⟨ledger, owns, topics⟩ :=
      h.owns before.ledger before.subscription wf.subscription wf.subscriptionHandles
    refine ⟨ledger, before.publisher.congr ?_ fun j hj y shown => ?_, owns⟩
    · obtain ⟨c, ks, f, g, ent, -⟩ := h.ent
      rw [ent]
      rfl
    · obtain ⟨z, hz, e⟩ := Endpoint.publisher.topicOf_mem before.ledger hj
      obtain rfl : z = y := Option.some.inj (e.symm.trans shown)
      exact topics z hz

end Create

/-! ## Destructions -/

section Destroy

variable [Element β] (two : TwoObjects β) {e : Entities} {i x size : Nat}

theorem Endpoint.destroyed_topic (ep : Endpoint β) (ledger : Ledger cfg e)
    (topic : ep.topicOf e i = some x) (hx : x ∈ e.topic.elements) :
    (ep.destroyed i e).topic = e.topic.finiTopic x := by
  rw [Endpoint.destroyed, ep.topics_withSlots, topic, destroyedTopic]
  exact congrArg Entities.topic (if_neg (ledger.topics.owned x hx))

theorem Slots.finiTopic_custom {t : Slots Topic} {x y : Nat} (ne : y ≠ x) :
    (t.finiTopic x).custom y = t.custom y := by
  rw [Slots.finiTopic, Slots.update_custom_of_ne _ _ ne, Slots.put_custom]

/-- The destruction of an endpoint leaves the topics of the others alone. -/
theorem TwoObjects.destroyed_owns (ledger : Ledger cfg e) (owns : two.Owns e)
    (ok : (two.ep.kind.slots e).Ok size) (hs : Handles (two.ep.kind.slots e))
    (hi : i ∈ (two.ep.kind.slots e).elements) : two.Owns (two.ep.destroyed i e) ∧
      ∀ j ∈ two.ep.restElements e, ∀ y, two.ep.restTopic e j = some y →
        ((two.ep.destroyed i e).topic.custom y).ownerNode = (e.topic.custom y).ownerNode := by
  obtain ⟨x, hx, topic⟩ := two.ep.topicOf_mem ledger hi
  obtain ⟨-, -, elements, custom⟩ := ok.fini hs hi id fun _ => rfl
  have after := two.ep.destroyed_topic ledger topic hx
  have slots : two.ep.kind.slots (two.ep.destroyed i e) = (two.ep.kind.slots e).fini id i := by
    rw [Endpoint.destroyed, two.ep.kind.slots_withSlots]
  have left : ∀ j ∈ (two.ep.kind.slots (two.ep.destroyed i e)).elements,
      j ≠ i ∧ j ∈ (two.ep.kind.slots e).elements := fun j hj => by
    rw [slots, elements, ok.nodup.mem_erase_iff] at hj
    exact hj
  constructor
  · refine owns.mono (fun j hj => ⟨(left j hj).2, ?_⟩) fun j hj y shown => ?_
    · rw [slots, custom j (left j hj).1]
    · have ne : y ≠ x := by
        rintro rfl
        exact (left j hj).1 (two.ep.topicOf_inj ledger hi (left j hj).2 (shown.trans topic.symm))
      rw [after, Slots.finiTopic_custom ne]
  · intro j hj y shown
    have ne : y ≠ x := by
      rintro rfl
      exact two.ep.restTopic_ne ledger hi hj (shown.trans topic.symm)
    rw [after, Slots.finiTopic_custom ne]

end Destroy

section Destroy

variable {s : State} {node i : Nat}

/-- **`rmw_destroy_publisher`**, on a publisher in use. -/
theorem rmwDestroyPublisher_matched (wf : Wf cfg s) (before : Matched cfg s.w.ent)
    (hn : node ∈ s.w.ent.node.elements) (hi : i ∈ s.w.ent.publisher.elements) :
    Matched cfg (rmwDestroyPublisher cfg (some node) (some i) s).2.w.ent := by
  obtain ⟨owns, rest⟩ := TwoObjects.publisher.destroyed_owns before.ledger before.publisher
    wf.publisher wf.publisherHandles hi
  refine ⟨rmwDestroyPublisher_ledger wf before.ledger hn hi, ?_, ?_⟩
  · rw [(rmwDestroyPublisher_effect wf hn hi).1.ent]
    exact owns
  · rw [(rmwDestroyPublisher_effect wf hn hi).1.ent]
    exact before.subscription.congr (destroyedTopic_subscription _ _) rest

/-- **`rmw_destroy_subscription`**, on a subscription in use. -/
theorem rmwDestroySubscription_matched (wf : Wf cfg s) (before : Matched cfg s.w.ent)
    (hn : node ∈ s.w.ent.node.elements) (hi : i ∈ s.w.ent.subscription.elements) :
    Matched cfg (rmwDestroySubscription cfg (some node) (some i) s).2.w.ent := by
  obtain ⟨owns, rest⟩ := TwoObjects.subscription.destroyed_owns before.ledger before.subscription
    wf.subscription wf.subscriptionHandles hi
  refine ⟨rmwDestroySubscription_ledger wf before.ledger hn hi, ?_, ?_⟩
  · rw [(rmwDestroySubscription_effect wf hn hi).1.ent]
    exact before.publisher.congr (destroyedTopic_publisher _ _) rest
  · rw [(rmwDestroySubscription_effect wf hn hi).1.ent]
    exact owns

end Destroy

/-- **`rmw_destroy_node`**, on a node in use. -/
theorem rmwDestroyNode_matched {s : State} (wf : Wf cfg s) (before : Matched cfg s.w.ent) {n : Nat}
    (hn : n ∈ s.w.ent.node.elements) : Matched cfg (rmwDestroyNode cfg (some n) s).2.w.ent := by
  have rule : NodeRule cfg n fun t => Reached cfg s t ∧ Matched cfg t.w.ent := reached_with hn
    (fun t i wf hn h hi _ => rmwDestroyPublisher_matched wf h hn hi)
    (fun t i wf hn h hi _ => rmwDestroySubscription_matched wf h hn hi)
    (fun t i wf hn h hi _ => by
      rw [(rmwDestroyService_effect wf hn hi).1.ent]
      exact h.of_endpoints rfl rfl rfl)
    fun t i wf hn h hi _ => by
      rw [(rmwDestroyClient_effect wf hn hi).1.ent]
      exact h.of_endpoints rfl rfl rfl
  obtain ⟨t, ret, ⟨end_, matched⟩, -, -, e⟩ := rule.run ⟨⟨.refl, wf, rfl, rfl, rfl⟩, before⟩
  have effect := destroyParticipant_effect end_.wf (rule.node t ⟨end_, matched⟩) ret
  rw [e, effect.ent]
  exact matched.of_endpoints rfl rfl rfl

/-- **`rmw_shutdown`** -/
theorem rmwShutdown_matched {s : State} (wf : Wf cfg s) (before : Matched cfg s.w.ent)
    (impl : Option Nat) : Matched cfg (rmwShutdown cfg impl s).2.w.ent := by
  obtain ⟨-, ⟨-, matched⟩, -⟩ := destroyAll_rule .node (fun n => n.context == impl)
    (fun i => rmwDestroyNode cfg (some i)) (fun _ => false)
    (J := fun t => Wf cfg t ∧ Matched cfg t.w.ent) (fun t h => h.1.node)
    (fun t n h hn _ => by
      obtain ⟨-, wf, -, -, erased⟩ := rmwDestroyNode_run h.1 hn
      exact ⟨rfl, ⟨wf, rmwDestroyNode_matched h.1 h.2 hn⟩, erased⟩)
    .ok ⟨wf, before⟩
  have flushed : (rmwShutdown cfg impl s).2.w.ent = (rmwContextFini cfg impl s).2.w.ent :=
    flushLoop_ent _ _ _
  rw [flushed]
  cases impl with
  | none => exact matched
  | some context =>
    rw [rmwContextFini_ent]
    exact matched.of_endpoints rfl rfl rfl

/-! ## The other calls -/

/-- The endpoints and topics are as they were. -/
structure Apart (s t : State) : Prop where
  publisher : t.w.ent.publisher = s.w.ent.publisher
  subscription : t.w.ent.subscription = s.w.ent.subscription
  topic : t.w.ent.topic = s.w.ent.topic

instance : Frame Apart where
  refl _ := ⟨rfl, rfl, rfl⟩
  trans := fun _ _ _ h k =>
    ⟨k.publisher.trans h.publisher, k.subscription.trans h.subscription, k.topic.trans h.topic⟩
  of_ent {s t} ent := by constructor <;> rw [ent]

theorem Apart.matched {s t : State} (h : Apart s t) (before : Matched cfg s.w.ent) :
    Matched cfg t.w.ent := before.of_endpoints h.publisher h.subscription h.topic

theorem Apart.overlooks_session : Overlooks Apart .session := fun _ _ => ⟨rfl, rfl, rfl⟩

theorem Plain.apart [Element β] (pl : Plain β) : Overlooks Apart pl.kind := fun s u =>
  ⟨pl.publisher u s.w.ent, pl.subscription u s.w.ent, pl.topic u s.w.ent⟩

/-- What an initialisation of the pools needs. -/
structure MatchedPools (cfg : Config) (s : State) : Prop where
  pools : Pools cfg s
  matched : Matched cfg s.w.ent

theorem initPools_matched : Hoare (MatchedPools cfg) (initPools cfg) fun _ => MatchedPools cfg :=
  .of fun s h => by
    have pools := (initPools_hoare s h.pools).2
    have publisher := h.pools.publisher.init.2.1
    have subscription := h.pools.subscription.init.2.1
    refine ⟨pools, pools.ledger, ?_, ?_⟩
    · refine h.matched.publisher.mono (fun i hi => ⟨?_, rfl⟩) fun _ _ _ _ => rfl
      exact publisher ▸ hi
    · refine h.matched.subscription.mono (fun i hi => ⟨?_, rfl⟩) fun _ _ _ _ => rfl
      exact subscription ▸ hi

/-- **`rmw_init`** -/
theorem rmwInit_matched (env : InitEnvironment) :
    Hoare (MatchedPools cfg) (rmwInit cfg env) fun _ => MatchedPools cfg := by
  refine rmwInit_rule env (fun s t h only => ?_) initPools_matched
  have apart : Apart s t := only.frame Apart.overlooks_session
  have matched := apart.matched h.matched
  refine ⟨⟨?_, ?_, matched.ledger⟩, matched⟩
  · exact apart.publisher ▸ h.pools.publisher
  · exact apart.subscription ▸ h.pools.subscription

/-- Every call but a creation that fails keeps the owners. -/
theorem perform_matched {s : State} (wf : Wf cfg s) (before : Matched cfg s.w.ent) {c : Call}
    (created : (perform cfg c s).1 ≠ .handle none) : Matched cfg (perform cfg c s).2.w.ent := by
  have quiet : c.Quiet = true → Matched cfg (perform cfg c s).2.w.ent := fun h => by
    have kept : Quiet s (perform cfg c s).2 := perform_quiet h s
    exact before.of_endpoints kept.publisher kept.subscription kept.topic
  have nothing : ∀ {t : State}, t = s → Matched cfg t.w.ent := fun same => same ▸ before
  have some : ∀ {r : Option Nat}, Reply.handle r ≠ .handle none → r ≠ none := fun h e => h (e ▸ rfl)
  cases c with
  | init env =>
    exact (rmwInit_matched env s ⟨⟨wf.publisher, wf.subscription, before.ledger⟩, before⟩).2.matched
  | shutdown impl => exact rmwShutdown_matched wf before impl
  | createNode context name namespace_ => exact (frame_rmwCreateNode Apart.overlooks_session Plain.node.apart _ _ _ s).matched before
  | destroyNode node =>
    rcases rmwDestroyNode_cases wf node with ⟨n, rfl, hn⟩ | same
    · exact rmwDestroyNode_matched wf before hn
    · exact nothing (congrArg Prod.snd same)
  | createPublisher node typeSupport topicName qosPolicies =>
    exact rmwCreatePublisher_matched wf before _ _ _ _ (some created)
  | destroyPublisher node publisher =>
    rcases rmwDestroyPublisher_cases wf node publisher with ⟨n, i, rfl, rfl, hn, hi⟩ | same
    · exact rmwDestroyPublisher_matched wf before hn hi
    · exact nothing (congrArg Prod.snd same)
  | createSubscription node typeSupport topicName qosPolicies =>
    exact rmwCreateSubscription_matched wf before _ _ _ _ (some created)
  | destroySubscription node subscription =>
    rcases rmwDestroySubscription_cases wf node subscription with ⟨n, i, rfl, rfl, hn, hi⟩ | same
    · exact rmwDestroySubscription_matched wf before hn hi
    · exact nothing (congrArg Prod.snd same)
  | createService node typeSupport serviceName qosPolicies requestId =>
    exact (frame_rmwCreateService Apart.overlooks_session Plain.service.apart _ _ _ _ s).matched before
  | destroyService node service =>
    rcases rmwDestroyService_cases wf node service with ⟨n, i, rfl, rfl, hn, hi⟩ | same
    · have effect := (rmwDestroyService_effect wf hn hi).1.ent
      exact effect ▸ before.of_endpoints rfl rfl rfl
    · exact nothing (congrArg Prod.snd same)
  | createClient node typeSupport serviceName qosPolicies requestId =>
    exact (frame_rmwCreateClient Apart.overlooks_session Plain.client.apart _ _ _ _ s).matched before
  | destroyClient node client =>
    rcases rmwDestroyClient_cases wf node client with ⟨n, i, rfl, rfl, hn, hi⟩ | same
    · have effect := (rmwDestroyClient_effect wf hn hi).1.ent
      exact effect ▸ before.of_endpoints rfl rfl rfl
    · exact nothing (congrArg Prod.snd same)
  | _ => exact quiet rfl

end RmwMicroxrcedds
