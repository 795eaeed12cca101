import RmwMicroxrcedds.Proof.SingleEnds
import RmwMicroxrcedds.Proof.LedgerCalls

/-!
# What a destruction takes away

A destroy function removes the cards of what it destroys and has the agent delete exactly these
objects. Both are kept when destructions follow one another, which is how `rmw_destroy_node` works.
-/

namespace RmwMicroxrcedds
set_option autoImplicit false

variable {cfg : Config} {β : Type}

/-! ## The requests -/

/-- The requests `qs` have been made, the latest first, and the graph entities keep their ids. -/
structure Talk (qs : List XrceRequest) (s t : State) : Prop where
  graph : SameGraph s t
  requests : ∃ rs, t.requests = rs ++ s.requests ∧ rs.map Prod.fst = qs

theorem Talk.silent {s t : State} (graph : SameGraph s t) (requests : t.requests = s.requests) :
    Talk [] s t := ⟨graph, [], requests, rfl⟩

theorem Talk.trans {qs qs' : List XrceRequest} {s t u : State} (h : Talk qs s t)
    (k : Talk qs' t u) : Talk (qs' ++ qs) s u := by
  obtain ⟨rs, hrs, rfl⟩ := h.requests
  obtain ⟨rs', hrs', rfl⟩ := k.requests
  refine ⟨fun c => (k.graph c).trans (h.graph c), rs' ++ rs, ?_, List.map_append⟩
  rw [hrs', hrs, List.append_assoc]

theorem runDestruction_talk (cfg : Config) (context : Nat) (request : XrceRequest) (s : State) :
    Talk [request] s (runDestruction cfg context request s).2 := by
  have asked := (runXrceSession_spec cfg context
    (s.w.ent.session.custom context).destroyStream request s).1
  exact ⟨asked.graph, [_], asked.requests, rfl⟩

theorem finiMemory_talk [Element β] (k : Kind β) (clear : β → β) (i : Nat) (s : State) :
    Talk [] s (finiMemory k clear i s).2 := by
  rw [finiMemory, Prog.bind_run, readElement_run]
  dsimp only
  split
  · cases (Element.handle ((k.slots s.w.ent).custom i)).data.bind k.owner
    · exact .silent (fun _ => rfl) rfl
    · exact .silent (fun _ => rfl) rfl
  · exact .silent (fun _ => rfl) rfl

/-- What `destroy_topic` asks for. -/
def Entities.topicRequests (e : Entities) (topic : Nat) : List XrceRequest :=
  if (e.topic.custom topic).ownerNode = none then []
  else [.deleteEntity (e.topic.custom topic).topicId]

theorem Entities.topicRequests_owned {e : Entities} {topic : Nat}
    (owned : (e.topic.custom topic).ownerNode ≠ none) :
    e.topicRequests topic = [.deleteEntity (e.topic.custom topic).topicId] := if_neg owned

theorem destroyTopic_talk (topic : Nat) (s : State) :
    Talk (s.w.ent.topicRequests topic) s (destroyTopic cfg topic s).2 := by
  rw [destroyTopic, Prog.bind_run, readElement_run]
  dsimp only
  cases own : (s.w.ent.topic.custom topic).ownerNode with
  | none =>
    have own' : ((Kind.topic.slots s.w.ent).custom topic).ownerNode = none := own
    rw [own', Entities.topicRequests, if_pos own]
    exact .silent (fun _ => rfl) rfl
  | some customNode =>
    have own' : ((Kind.topic.slots s.w.ent).custom topic).ownerNode = some customNode := own
    rw [own', Entities.topicRequests_owned (by simp [own])]
    have asked := (runXrceSession_spec cfg (contextOf customNode s).1
      (s.w.ent.session.custom (contextOf customNode s).1).destroyStream
      (.deleteEntity (s.w.ent.topic.custom topic).topicId) s).1
    exact ⟨asked.graph, [_], asked.requests, rfl⟩

section Talks

variable {s : State} {node i : Nat}

theorem rmwDestroyPublisher_talk (wf : Wf cfg s) (hn : node ∈ s.w.ent.node.elements)
    (hi : i ∈ s.w.ent.publisher.elements) :
    Talk ([.deleteEntity (s.w.ent.publisher.custom i).publisherId,
        .deleteEntity (s.w.ent.publisher.custom i).datawriterId] ++
      s.w.ent.topicRequests (deref (s.w.ent.publisher.custom i).topic)) s
      (rmwDestroyPublisher cfg (some node) (some i) s).2 := by
  rw [rmwDestroyPublisher, Prog.bind_run,
    destroyChecks_some .publisher wf.nodeHandles wf.publisherHandles hn hi]
  dsimp only
  rw [Prog.bind_run, readElement_run]
  simp only [Prog.bind_run, Prog.pure_run]
  exact ((destroyTopic_talk _ _).trans (runDestruction_talk _ _ _ _)).trans
    ((runDestruction_talk _ _ _ _).trans (finiMemory_talk .publisher id i _))

theorem rmwDestroySubscription_talk (wf : Wf cfg s) (hn : node ∈ s.w.ent.node.elements)
    (hi : i ∈ s.w.ent.subscription.elements) :
    Talk ([.deleteEntity (s.w.ent.subscription.custom i).subscriberId,
        .deleteEntity (s.w.ent.subscription.custom i).datareaderId] ++
      s.w.ent.topicRequests (deref (s.w.ent.subscription.custom i).topic) ++
        [.cancelData (s.w.ent.subscription.custom i).datareaderId]) s
      (rmwDestroySubscription cfg (some node) (some i) s).2 := by
  rw [rmwDestroySubscription, Prog.bind_run,
    destroyChecks_some .subscription wf.nodeHandles wf.subscriptionHandles hn hi]
  dsimp only
  rw [Prog.bind_run, readElement_run]
  dsimp only
  set p : Subscription := (Kind.subscription.slots s.w.ent).custom i
  rw [Prog.bind_run]
  set context := (contextOf (deref p.ownerNode) s).1
  have same : (contextOf (deref p.ownerNode) s).2 = s := rfl
  rw [same, Prog.bind_run]
  have cancel := runDestruction_talk cfg context (.cancelData p.datareaderId) s
  have frame := runDestruction_frame cfg context (.cancelData p.datareaderId) s
  set t := (runDestruction cfg context (.cancelData p.datareaderId) s).2
  have topics : s.w.ent.topicRequests (deref p.topic) = t.w.ent.topicRequests (deref p.topic) := by
    rw [frame.ent]
  have shown : (s.w.ent.subscription.custom i) = p := rfl
  rw [shown, topics, List.append_assoc]
  simp only [Prog.bind_run, Prog.pure_run]
  exact (cancel.trans (destroyTopic_talk (deref p.topic) t)).trans
    (((runDestruction_talk _ _ _ _).trans (runDestruction_talk _ _ _ _)).trans
      (finiMemory_talk .subscription id i _))

theorem rmwDestroyService_talk (wf : Wf cfg s) (hn : node ∈ s.w.ent.node.elements)
    (hi : i ∈ s.w.ent.service.elements) :
    Talk [.deleteEntity (s.w.ent.service.custom i).serviceId,
      .cancelData (s.w.ent.service.custom i).serviceId] s
      (rmwDestroyService cfg (some node) (some i) s).2 := by
  rw [rmwDestroyService, Prog.bind_run,
    destroyChecks_some .service wf.nodeHandles wf.serviceHandles hn hi]
  simp only [Prog.bind_run, Prog.pure_run, readElement_run]
  exact ((runDestruction_talk _ _ _ _).trans (runDestruction_talk _ _ _ _)).trans
    (finiMemory_talk .service id i _)

theorem rmwDestroyClient_talk (wf : Wf cfg s) (hn : node ∈ s.w.ent.node.elements)
    (hi : i ∈ s.w.ent.client.elements) :
    Talk [.deleteEntity (s.w.ent.client.custom i).clientId,
      .cancelData (s.w.ent.client.custom i).clientId] s
      (rmwDestroyClient cfg (some node) (some i) s).2 := by
  rw [rmwDestroyClient, Prog.bind_run,
    destroyChecks_some .client wf.nodeHandles wf.clientHandles hn hi]
  simp only [Prog.bind_run, Prog.pure_run, readElement_run]
  exact ((runDestruction_talk _ _ _ _).trans (runDestruction_talk _ _ _ _)).trans
    (finiMemory_talk .client id i _)

theorem destroyParticipant_talk (n : Nat) (ret : RmwRet) :
    Talk [.deleteEntity (s.w.ent.node.custom n).participantId] s
      (destroyParticipant cfg n n ret s).2 := by
  rw [destroyParticipant, Prog.bind_run, readElement_run]
  simp only [Prog.bind_run, Prog.pure_run]
  exact (runDestruction_talk _ _ _ _).trans (finiMemory_talk .node _ n _)

end Talks

/-! ## The cards -/

/-- Cards have gone with the requests that delete their objects. -/
structure Removed (s t : State) : Prop where
  session : t.w.ent.session = s.w.ent.session
  graph : SameGraph s t
  cards : ∀ k, (t.w.ent.cards k).Sublist (s.w.ent.cards k)
  requests : ∃ rs, t.requests = rs ++ s.requests ∧
    (∀ r ∈ rs, ∃ id, r.1 = .cancelData id ∨ r.1 = .deleteEntity id) ∧
    ∀ k, ∀ card ∈ s.w.ent.cards k, card ∉ t.w.ent.cards k → ∃ b, (.deleteEntity card.id, b) ∈ rs

theorem Removed.refl (s : State) : Removed s s :=
  ⟨rfl, fun _ => rfl, fun _ => .refl _, [], rfl, by simp, fun _ _ mem left => absurd mem left⟩

theorem Removed.trans {s t u : State} (h : Removed s t) (k : Removed t u) : Removed s u := by
  obtain ⟨rs, hrs, quiet, gone⟩ := h.requests
  obtain ⟨rs', hrs', quiet', gone'⟩ := k.requests
  refine ⟨k.session.trans h.session, fun c => (k.graph c).trans (h.graph c),
    fun j => (k.cards j).trans (h.cards j), rs' ++ rs, ?_, fun r hr => ?_, fun j card mem left => ?_⟩
  · rw [hrs', hrs, List.append_assoc]
  · rcases List.mem_append.1 hr with hr | hr
    · exact quiet' r hr
    · exact quiet r hr
  · by_cases still : card ∈ t.w.ent.cards j
    · obtain ⟨b, hb⟩ := gone' j card still left
      exact ⟨b, List.mem_append_left _ hb⟩
    · obtain ⟨b, hb⟩ := gone j card mem still
      exact ⟨b, List.mem_append_right _ hb⟩

/-- The requests of a destruction as `Removed` speaks of them. -/
theorem Talk.removed {qs : List XrceRequest} {s t : State} (h : Talk qs s t)
    (session : t.w.ent.session = s.w.ent.session)
    (quiet : ∀ q ∈ qs, ∃ id, q = .cancelData id ∨ q = .deleteEntity id)
    (cards : ∀ k, (t.w.ent.cards k).Sublist (s.w.ent.cards k) ∧
      ∀ card ∈ s.w.ent.cards k, card ∉ t.w.ent.cards k → .deleteEntity card.id ∈ qs) :
    Removed s t := by
  obtain ⟨rs, hrs, rfl⟩ := h.requests
  refine ⟨session, h.graph, fun k => (cards k).1, rs, hrs, fun r hr => ?_, fun k card mem left => ?_⟩
  · exact quiet r.1 (List.mem_map_of_mem hr)
  · obtain ⟨r, hr, e⟩ := List.mem_map.1 ((cards k).2 card mem left)
    exact ⟨r.2, e ▸ hr⟩

section Slots

variable {t u : Slots β} (parent : β → Option Nat) (id : β → UxrObjectId) {i : Nat}

/-- One slot less. -/
theorem Slots.cards_erased (nodup : t.elements.Nodup) (elements : u.elements = t.elements.erase i)
    (custom : ∀ j, j ≠ i → u.custom j = t.custom j) :
    (u.cards parent id).Sublist (t.cards parent id) ∧
      ∀ card ∈ t.cards parent id, card ∉ u.cards parent id → card.id = id (t.custom i) := by
  have same : u.cards parent id =
      (t.elements.erase i).map fun j => ⟨j, parent (t.custom j), id (t.custom j)⟩ := by
    rw [cards, elements]
    refine List.map_congr_left fun j hj => ?_
    rw [custom j (nodup.mem_erase_iff.1 hj).1]
  rw [same]
  refine ⟨List.erase_sublist.map _, fun card mem left => ?_⟩
  obtain ⟨j, hj, rfl⟩ := mem_cards.1 mem
  by_cases e : j = i
  · rw [e]
  · exact absurd (List.mem_map_of_mem (nodup.mem_erase_iff.2 ⟨e, hj⟩)) left

end Slots

/-- One element less. -/
theorem Bearer.erased (b : Bearer β) {e : Entities} {u : Slots β} {s : Slots Session} {t : Slots Topic}
    {i : Nat} (nodup : (b.kind.slots e).elements.Nodup)
    (elements : u.elements = (b.kind.slots e).elements.erase i)
    (custom : ∀ j, j ≠ i → u.custom j = (b.kind.slots e).custom j) {k : ObjectKind} (hk : k ≠ .topic) :
    let e' := b.kind.withSlots u { e with session := s, topic := t }
    (e'.cards k).Sublist (e.cards k) ∧ ∀ card ∈ e.cards k, card ∉ e'.cards k →
      k ∈ b.objects ∧ card.id = b.id k ((b.kind.slots e).custom i) := by
  intro e'
  by_cases own : k ∈ b.objects
  · obtain ⟨sublist, gone⟩ := Slots.cards_erased b.parent (b.id k) nodup elements custom
    have after : e'.cards k = u.cards b.parent (b.id k) := by rw [b.own _ k own, b.kind.slots_withSlots]
    rw [after, b.own e k own]
    exact ⟨sublist, fun card mem left => ⟨own, gone card mem left⟩⟩
  · have same : e'.cards k = e.cards k := b.others e u s t k own hk
    rw [same]
    exact ⟨.refl _, fun card mem left => absurd mem left⟩

/-! ## The destroy functions -/

section Removed

variable {s t : State} {i n : Nat} {qs : List XrceRequest}

/-- The topic released takes its card along. -/
theorem Topics.cards_released {size x : Nat} {ts : List Nat} {t : Slots Topic}
    (h : Topics cfg size ts t) (hx : x ∈ t.elements) (parent : Topic → Option Nat) :
    ((t.finiTopic x).cards parent (·.topicId)).Sublist (t.cards parent (·.topicId)) ∧
      ∀ card ∈ t.cards parent (·.topicId), card ∉ (t.finiTopic x).cards parent (·.topicId) →
        card.id = (t.custom x).topicId := by
  have released := h.release (h.elements ▸ hx)
  refine Slots.cards_erased parent _ h.ok.nodup (released.elements.trans (by rw [h.elements])) fun j ne => ?_
  rw [Slots.finiTopic, Slots.update_custom_of_ne _ _ ne, Slots.put_custom]

/-- An endpoint is gone, with its topic. -/
theorem TwoObjects.removed [Element β] (two : TwoObjects β) {size : Nat} (ledger : Ledger cfg s.w.ent)
    (ok : (two.ep.kind.slots s.w.ent).Ok size) (hs : Handles (two.ep.kind.slots s.w.ent))
    (hi : i ∈ (two.ep.kind.slots s.w.ent).elements) {x : Nat} (topic : two.ep.topicOf s.w.ent i = some x)
    (hx : x ∈ s.w.ent.topic.elements) (ent : t.w.ent = two.ep.destroyed i s.w.ent) (talk : Talk qs s t)
    (quiet : ∀ q ∈ qs, ∃ id, q = .cancelData id ∨ q = .deleteEntity id)
    (outer : .deleteEntity (two.outerId ((two.ep.kind.slots s.w.ent).custom i)) ∈ qs)
    (inner : .deleteEntity (two.innerId ((two.ep.kind.slots s.w.ent).custom i)) ∈ qs)
    (told : .deleteEntity (s.w.ent.topic.custom x).topicId ∈ qs) : Removed s t := by
  have released : destroyedTopic (deref (two.ep.topicOf s.w.ent i)) s.w.ent = finiTopic x s.w.ent := by
    rw [topic, destroyedTopic]
    exact if_neg (ledger.topics.owned x hx)
  rw [Endpoint.destroyed, released] at ent
  obtain ⟨-, -, elements, custom⟩ := ok.fini hs hi id fun _ => rfl
  apply talk.removed
  · rw [ent, two.aside.session]
    rfl
  · exact quiet
  · intro k
    rw [ent]
    by_cases hk : k = .topic
    · subst hk
      obtain ⟨sublist, gone⟩ := ledger.topics.cards_released hx (·.ownerNode)
      have after : (two.ep.kind.withSlots ((two.ep.kind.slots s.w.ent).fini id i)
          (finiTopic x s.w.ent)).cards .topic =
          (s.w.ent.topic.finiTopic x).cards (·.ownerNode) (·.topicId) := by
        rw [Entities.cards, two.ep.topics_withSlots]
        rfl
      rw [after]
      exact ⟨sublist, fun card mem left => gone card mem left ▸ told⟩
    · obtain ⟨sublist, gone⟩ := two.bearer.erased (s := s.w.ent.session)
        (t := s.w.ent.topic.finiTopic x) ok.nodup elements custom hk
      refine ⟨sublist, fun card mem left => ?_⟩
      obtain ⟨own, id⟩ := gone card mem left
      rw [id]
      show XrceRequest.deleteEntity (if k = two.outer then _ else _) ∈ qs
      split
      · exact outer
      · exact inner

/-- An element whose pool has nothing to do with the topics is gone. -/
theorem Bearer.removed [Element β] (b : Bearer β) (aside : b.kind.Aside) {size : Nat} (clear : β → β)
    (keep : ∀ b, Element.handle (clear b) = Element.handle b)
    (ok : (b.kind.slots s.w.ent).Ok size) (hs : Handles (b.kind.slots s.w.ent))
    (hi : i ∈ (b.kind.slots s.w.ent).elements)
    (ent : t.w.ent = b.kind.withSlots ((b.kind.slots s.w.ent).fini clear i) s.w.ent)
    (talk : Talk qs s t) (quiet : ∀ q ∈ qs, ∃ id, q = .cancelData id ∨ q = .deleteEntity id)
    (told : ∀ k ∈ b.objects, .deleteEntity (b.id k ((b.kind.slots s.w.ent).custom i)) ∈ qs) :
    Removed s t := by
  obtain ⟨-, -, elements, custom⟩ := ok.fini hs hi clear keep
  apply talk.removed
  · rw [ent, aside.session]
  · exact quiet
  · intro k
    rw [ent]
    by_cases hk : k = .topic
    · subst hk
      have after : (b.kind.withSlots ((b.kind.slots s.w.ent).fini clear i) s.w.ent).cards .topic =
          s.w.ent.cards .topic := by
        rw [Entities.cards, aside.topic]
        rfl
      rw [after]
      exact ⟨.refl _, fun card mem left => absurd mem left⟩
    · obtain ⟨sublist, gone⟩ := b.erased (s := s.w.ent.session) (t := s.w.ent.topic) ok.nodup
        elements custom hk
      refine ⟨sublist, fun card mem left => ?_⟩
      obtain ⟨own, id⟩ := gone card mem left
      exact id ▸ told k own

variable (wf : Wf cfg s) (ledger : Ledger cfg s.w.ent)

include wf ledger

theorem rmwDestroyPublisher_removed (hn : n ∈ s.w.ent.node.elements)
    (hi : i ∈ s.w.ent.publisher.elements) :
    Removed s (rmwDestroyPublisher cfg (some n) (some i) s).2 := by
  obtain ⟨x, hx, topic⟩ := Endpoint.publisher.topicOf_mem ledger hi
  have talk := rmwDestroyPublisher_talk wf hn hi
  have shown : (s.w.ent.publisher.custom i).topic = some x := topic
  have told := Entities.topicRequests_owned (ledger.topics.owned x hx)
  rw [shown, show deref (some x) = x from rfl, told] at talk
  exact TwoObjects.publisher.removed ledger wf.publisher wf.publisherHandles hi topic hx
    (rmwDestroyPublisher_effect wf hn hi).1.ent talk (by simp) List.mem_cons_self
    (List.mem_cons_of_mem _ List.mem_cons_self) (by simp)

theorem rmwDestroySubscription_removed (hn : n ∈ s.w.ent.node.elements)
    (hi : i ∈ s.w.ent.subscription.elements) :
    Removed s (rmwDestroySubscription cfg (some n) (some i) s).2 := by
  obtain ⟨x, hx, topic⟩ := Endpoint.subscription.topicOf_mem ledger hi
  have talk := rmwDestroySubscription_talk wf hn hi
  have shown : (s.w.ent.subscription.custom i).topic = some x := topic
  have told := Entities.topicRequests_owned (ledger.topics.owned x hx)
  rw [shown, show deref (some x) = x from rfl, told] at talk
  exact TwoObjects.subscription.removed ledger wf.subscription wf.subscriptionHandles hi topic hx
    (rmwDestroySubscription_effect wf hn hi).1.ent talk (by simp) List.mem_cons_self
    (List.mem_cons_of_mem _ List.mem_cons_self) (by simp)

omit ledger in
theorem rmwDestroyService_removed (hn : n ∈ s.w.ent.node.elements) (hi : i ∈ s.w.ent.service.elements) :
    Removed s (rmwDestroyService cfg (some n) (some i) s).2 :=
  OneObject.service.bearer.removed OneObject.service.aside id (fun _ => rfl) wf.service
    wf.serviceHandles hi (rmwDestroyService_effect wf hn hi).1.ent (rmwDestroyService_talk wf hn hi)
    (by simp) fun k hk => List.mem_cons_self

omit ledger in
theorem rmwDestroyClient_removed (hn : n ∈ s.w.ent.node.elements) (hi : i ∈ s.w.ent.client.elements) :
    Removed s (rmwDestroyClient cfg (some n) (some i) s).2 :=
  OneObject.client.bearer.removed OneObject.client.aside id (fun _ => rfl) wf.client
    wf.clientHandles hi (rmwDestroyClient_effect wf hn hi).1.ent (rmwDestroyClient_talk wf hn hi)
    (by simp) fun k hk => List.mem_cons_self

/-- **`rmw_destroy_node`**, on a node in use. -/
theorem rmwDestroyNode_removed (hn : n ∈ s.w.ent.node.elements) :
    Removed s (rmwDestroyNode cfg (some n) s).2 := by
  have rule : NodeRule cfg n fun t => Reached cfg s t ∧ Ledger cfg t.w.ent ∧ Removed s t :=
    reached_with hn
      (fun t i wf hn h hi _ => ⟨rmwDestroyPublisher_ledger wf h.1 hn hi,
        h.2.trans (rmwDestroyPublisher_removed wf h.1 hn hi)⟩)
      (fun t i wf hn h hi _ => ⟨rmwDestroySubscription_ledger wf h.1 hn hi,
        h.2.trans (rmwDestroySubscription_removed wf h.1 hn hi)⟩)
      (fun t i wf hn h hi _ => ⟨rmwDestroyService_ledger wf h.1 hn hi,
        h.2.trans (rmwDestroyService_removed wf hn hi)⟩)
      fun t i wf hn h hi _ => ⟨rmwDestroyClient_ledger wf h.1 hn hi,
        h.2.trans (rmwDestroyClient_removed wf hn hi)⟩
  obtain ⟨t, ret, ⟨end_, kept, removed⟩, -, -, e⟩ :=
    rule.run ⟨⟨.refl, wf, rfl, rfl, rfl⟩, ledger, .refl s⟩
  have hn' := rule.node t ⟨end_, kept, removed⟩
  rw [e]
  refine removed.trans ?_
  exact Bearer.node.removed Kind.node_aside (fun n => { n with context := none }) (fun _ => rfl) end_.wf.node end_.wf.nodeHandles hn'
    (destroyParticipant_effect end_.wf hn' ret).ent (destroyParticipant_talk n ret) (by simp)
    fun k hk => List.mem_cons_self

end Removed

end RmwMicroxrcedds
