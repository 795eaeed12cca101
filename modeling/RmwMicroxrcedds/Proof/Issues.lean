import RmwMicroxrcedds.Proof.Openings
import RmwMicroxrcedds.Proof.Quiet
import RmwMicroxrcedds.Proof.Removals

/-!
# The ids in use

An object is there as long as the slot it belongs to is in use. A topic has no handle of its own: it
is there from its creation, which gives it an owner, to its release, which takes the owner away. A
call that creates something adds at most one object of a kind, with the id the counter shows; all
other calls inside an open context add none.
-/

namespace RmwMicroxrcedds
set_option autoImplicit false

variable {cfg : Config} {β : Type}

/-- The slot `i` has an object of the kind, with this id. -/
def Entities.Holds (e : Entities) (k : ObjectKind) (i id : Nat) : Prop :=
  if k = .topic then (e.topic.custom i).ownerNode ≠ none ∧ (e.topic.custom i).topicId.id = id
  else ∃ card ∈ e.cards k, card.slot = i ∧ card.id.id = id

/-- Objects of the given kinds have come, each with the next id of the context. -/
structure Issues (c : Nat) (kinds : List ObjectKind) (s t : State) : Prop where
  memory : t.w.ent.session.memory = s.w.ent.session.memory
  reliable : ∀ c', s.Reliable c' → t.Reliable c'
  graph : SameGraph s t
  holds : ∃ slot : ObjectKind → Nat, ∀ k i id, t.w.ent.Holds k i id → s.w.ent.Holds k i id ∨
    (k ∈ kinds ∧ i = slot k ∧ id = (s.w.ent.nextId c k).id)

/-- Objects have gone and none has come. -/
structure Fewer (s t : State) : Prop where
  memory : t.w.ent.session.memory = s.w.ent.session.memory
  reliable : ∀ c', s.Reliable c' → t.Reliable c'
  graph : SameGraph s t
  holds : ∀ k i id, t.w.ent.Holds k i id → s.w.ent.Holds k i id

theorem Fewer.refl (s : State) : Fewer s s := ⟨rfl, fun _ h => h, fun _ => rfl, fun _ _ _ => id⟩

theorem Fewer.trans {s t u : State} (h : Fewer s t) (k : Fewer t u) : Fewer s u :=
  ⟨k.memory.trans h.memory, fun c' reliable => k.reliable c' (h.reliable c' reliable),
    fun c => (k.graph c).trans (h.graph c),
    fun j i id held => h.holds j i id (k.holds j i id held)⟩

theorem Fewer.of_eq {s t : State} (same : t = s) : Fewer s t := same ▸ .refl s

theorem Fewer.issues {s t : State} (h : Fewer s t) (c : Nat) (kinds : List ObjectKind) :
    Issues c kinds s t :=
  ⟨h.memory, h.reliable, h.graph, fun _ => 0, fun k i id held => .inl (h.holds k i id held)⟩

/-! ## Creations -/

/-- Topics have lost their owner, and at most one has come, with the given id. -/
def Slots.TopicsPass (t u : Slots Topic) (id : UxrObjectId) : Prop :=
  ∃ x, ∀ y, u.custom y = t.custom y ∨ (u.custom y).ownerNode = none ∨
    (y = x ∧ (u.custom y).topicId = id)

theorem Slots.TopicsPass.refl (t : Slots Topic) (id : UxrObjectId) : t.TopicsPass t id :=
  ⟨0, fun _ => .inl rfl⟩

theorem Slots.TopicsPass.finiTopic {t u : Slots Topic} {id : UxrObjectId} (h : t.TopicsPass u id)
    (x : Nat) : t.TopicsPass (u.finiTopic x) id := by
  obtain ⟨z, pass⟩ := h
  refine ⟨z, fun y => ?_⟩
  by_cases e : y = x
  · right
    left
    rw [e, Slots.finiTopic, update_custom_self]
  · rw [Slots.finiTopic, update_custom_of_ne _ _ e, put_custom]
    exact pass y

theorem Slots.TopicsPass.released {t u : Slots Topic} {id : UxrObjectId} (h : t.TopicsPass u id)
    (x : Option Nat) : t.TopicsPass (Endpoint.releasedTopics x u) id := by
  cases x with
  | none => exact h
  | some x => exact h.finiTopic x

/-- A topic handed out and filled in. -/
theorem Slots.TopicsPass.named (t : Slots Topic) (x n : Nat) (members : MessageTypeSupportCallbacks)
    (id : UxrObjectId) : t.TopicsPass (t.get.2.update x (namedTopic n members id)) id := by
  refine ⟨x, fun y => ?_⟩
  by_cases e : y = x
  · right
    right
    rw [e, update_custom_self]
    exact ⟨rfl, rfl⟩
  · left
    rw [update_custom_of_ne _ _ e, get_custom]

theorem TopicEnd.pass {n : Nat} {name : CStr} {members : MessageTypeSupportCallbacks} {s₀ : State}
    {topic : Option Nat} {ks : List ObjectKind} {ts : Slots Topic} {rs : List (XrceRequest × Bool)}
    (h : TopicEnd cfg n name members s₀ topic ks ts rs) :
    s₀.w.ent.topic.TopicsPass ts (s₀.w.ent.nextId (s₀.w.ent.contextOf n) .topic) := by
  cases h with
  | full => exact ⟨0, fun y => .inl (by rw [Slots.get_custom])⟩
  | unfit x => exact (Slots.TopicsPass.named ..).finiTopic x
  | refused x => exact (Slots.TopicsPass.named ..).finiTopic x
  | made x => exact Slots.TopicsPass.named ..

theorem TwoObjects.Outcome.pass [Element β] {two : TwoObjects β} {n i : Nat} {name : CStr}
    {typeSupport : TypeSupport MessageTypeSupportCallbacks} {s₀ : State} {held : Option Nat}
    {ks : List ObjectKind} {ts : Slots Topic} {rs : List (XrceRequest × Bool)}
    (h : two.Outcome cfg n i name typeSupport s₀ held ks ts rs) :
    s₀.w.ent.topic.TopicsPass ts (s₀.w.ent.nextId (s₀.w.ent.contextOf n) .topic) := by
  cases h with
  | early => exact (Slots.TopicsPass.refl _ _).released _
  | topicless _ topic => exact topic.pass
  | alone _ topic => exact topic.pass.finiTopic _
  | unnamed _ topic => exact topic.pass.finiTopic _
  | refused _ topic => exact topic.pass.finiTopic _
  | made _ topic => exact topic.pass

theorem Created.issues {objects kinds ks : List ObjectKind} {c : Nat} {parent held : Option Nat}
    {s₀ s : State} {ts : Slots Topic} {rs : List (XrceRequest × Bool)}
    (h : Created objects c parent held s₀ ks ts rs s) (sub : ∀ k ∈ objects, k ∈ kinds)
    (pass : s₀.w.ent.topic.TopicsPass ts (s₀.w.ent.nextId c .topic))
    (topics : .topic ∈ kinds ∨ ts = s₀.w.ent.topic) : Issues c kinds s₀ s where
  memory := by rw [h.session]; rfl
  reliable c' reliable := by
    rw [State.Reliable, h.session]
    by_cases e : c' = c
    · rw [e, Slots.update_custom_self, Session.drawn_creationStream]
      exact e ▸ reliable
    · rw [Slots.update_custom_of_ne _ _ e]
      exact reliable
  graph := h.graph
  holds := by
    obtain ⟨x, pass⟩ := pass
    refine ⟨fun k => if k = .topic then x else held.getD 0, fun k i id holds => ?_⟩
    by_cases hk : k = .topic
    · subst hk
      simp only [Entities.Holds, if_true] at holds ⊢
      rw [h.topic] at holds
      rcases pass i with same | free | ⟨here, next⟩
      · exact .inl (same ▸ holds)
      · exact absurd free holds.1
      · rcases topics with own | rfl
        · exact .inr ⟨own, here, by rw [← next, holds.2]⟩
        · exact .inl holds
    · simp only [Entities.Holds, if_neg hk] at holds ⊢
      obtain ⟨card, mem, rfl, rfl⟩ := holds
      rw [h.cards k hk] at mem
      split at mem
      · split at mem
        · rename_i own
          rcases List.mem_cons.1 mem with rfl | old
          · exact .inr ⟨sub k own, rfl, rfl⟩
          · exact .inl ⟨card, old, rfl, rfl⟩
        · exact .inl ⟨card, mem, rfl, rfl⟩
      · exact .inl ⟨card, mem, rfl, rfl⟩

theorem TwoObjects.Ends.issues [Element β] {two : TwoObjects β} {c : Nat} {node : Option Nat}
    {typeSupport : Option (TypeSupport MessageTypeSupportCallbacks)} {topicName : Option CStr}
    {s t : State} (h : two.Ends cfg node typeSupport topicName s t)
    (only : ∀ n ∈ s.w.ent.node.elements, s.w.ent.contextOf n = c) :
    Issues c [.topic, two.outer, two.inner] s t := by
  rcases h with rfl | ⟨n, i, ts, name, -, hn, -, -, -, -, held, ks, topics, rs, outcome, created⟩
  · exact (Fewer.refl _).issues c _
  · obtain rfl := only n hn
    exact created.issues (fun k => List.mem_cons_of_mem _) outcome.pass (.inl List.mem_cons_self)

theorem OneObject.Ends.issues [Element β] {one : OneObject β} {c : Nat} {node : Option Nat}
    {s t : State} (h : one.Ends node s t)
    (only : ∀ n ∈ s.w.ent.node.elements, s.w.ent.contextOf n = c) : Issues c [one.object] s t := by
  rcases h with rfl | ⟨n, i, -, hn, -, held, texts, ks, rs, -, created⟩
  · exact (Fewer.refl _).issues c _
  · obtain rfl := only n hn
    exact created.issues (fun _ mem => mem) (.refl _ _) (.inr rfl)

theorem NodeEnd.issues {c i : Nat} {name namespace_ : CStr} {s t : State}
    (h : NodeEnd cfg c name namespace_ i s t) : Issues c [.participant] s t := by
  obtain ⟨held, ks, rs, -, created, -⟩ := h
  exact created.issues (fun _ => id) (.refl _ _) (.inr rfl)

/-! ## Destructions -/

section Destructions

variable {s t : State} {i n : Nat} {qs : List XrceRequest}

/-- An element is gone, and topics may have lost their owner. -/
theorem Bearer.fewer [Element β] (b : Bearer β) (aside : b.kind.Aside) {size : Nat} {ts : Slots Topic}
    (clear : β → β) (keep : ∀ b, Element.handle (clear b) = Element.handle b)
    (ok : (b.kind.slots s.w.ent).Ok size) (hs : Handles (b.kind.slots s.w.ent))
    (hi : i ∈ (b.kind.slots s.w.ent).elements)
    (ent : t.w.ent = b.kind.withSlots ((b.kind.slots s.w.ent).fini clear i) { s.w.ent with topic := ts })
    (topics : ∀ x, ts.custom x = s.w.ent.topic.custom x ∨ (ts.custom x).ownerNode = none)
    (talk : Talk qs s t) : Fewer s t where
  memory := by rw [ent, aside.session]
  reliable c' reliable := by
    rw [State.Reliable, ent, aside.session]
    exact reliable
  graph := talk.graph
  holds k j id holds := by
    obtain ⟨-, -, elements, custom⟩ := ok.fini hs hi clear keep
    rw [ent] at holds
    by_cases hk : k = .topic
    · subst hk
      simp only [Entities.Holds, if_true, aside.topic] at holds ⊢
      rcases topics j with same | free
      · exact same ▸ holds
      · exact absurd free holds.1
    · simp only [Entities.Holds, if_neg hk] at holds ⊢
      obtain ⟨card, mem, here⟩ := holds
      have fewer := (b.erased (s := s.w.ent.session) (t := ts) ok.nodup elements custom hk).1
      exact ⟨card, fewer.subset mem, here⟩

/-- The topics after `destroy_topic`. -/
theorem destroyedTopic_eq (x : Nat) (e : Entities) :
    ∃ ts : Slots Topic, destroyedTopic x e = { e with topic := ts } ∧
      ∀ y, ts.custom y = e.topic.custom y ∨ (ts.custom y).ownerNode = none := by
  unfold destroyedTopic
  split
  · exact ⟨e.topic, rfl, fun _ => .inl rfl⟩
  · refine ⟨e.topic.finiTopic x, rfl, fun y => ?_⟩
    by_cases ne : y = x
    · right
      rw [ne, Slots.finiTopic, Slots.update_custom_self]
    · left
      rw [Slots.finiTopic, Slots.update_custom_of_ne _ _ ne, Slots.put_custom]

theorem TwoObjects.fewer [Element β] (two : TwoObjects β) {size : Nat}
    (ok : (two.ep.kind.slots s.w.ent).Ok size) (hs : Handles (two.ep.kind.slots s.w.ent))
    (hi : i ∈ (two.ep.kind.slots s.w.ent).elements) (ent : t.w.ent = two.ep.destroyed i s.w.ent)
    (talk : Talk qs s t) : Fewer s t := by
  obtain ⟨ts, destroyed, topics⟩ := destroyedTopic_eq (deref (two.ep.topicOf s.w.ent i)) s.w.ent
  rw [Endpoint.destroyed, destroyed] at ent
  exact two.bearer.fewer two.aside id (fun _ => rfl) ok hs hi ent topics talk

variable (wf : Wf cfg s)

include wf

theorem rmwDestroyPublisher_fewer (hn : n ∈ s.w.ent.node.elements) (hi : i ∈ s.w.ent.publisher.elements) :
    Fewer s (rmwDestroyPublisher cfg (some n) (some i) s).2 :=
  TwoObjects.publisher.fewer wf.publisher wf.publisherHandles hi
    (rmwDestroyPublisher_effect wf hn hi).1.ent (rmwDestroyPublisher_talk wf hn hi)

theorem rmwDestroySubscription_fewer (hn : n ∈ s.w.ent.node.elements)
    (hi : i ∈ s.w.ent.subscription.elements) :
    Fewer s (rmwDestroySubscription cfg (some n) (some i) s).2 :=
  TwoObjects.subscription.fewer wf.subscription wf.subscriptionHandles hi
    (rmwDestroySubscription_effect wf hn hi).1.ent (rmwDestroySubscription_talk wf hn hi)

theorem rmwDestroyService_fewer (hn : n ∈ s.w.ent.node.elements) (hi : i ∈ s.w.ent.service.elements) :
    Fewer s (rmwDestroyService cfg (some n) (some i) s).2 :=
  OneObject.service.bearer.fewer OneObject.service.aside id (fun _ => rfl) wf.service
    wf.serviceHandles hi (rmwDestroyService_effect wf hn hi).1.ent (fun _ => .inl rfl)
    (rmwDestroyService_talk wf hn hi)

theorem rmwDestroyClient_fewer (hn : n ∈ s.w.ent.node.elements) (hi : i ∈ s.w.ent.client.elements) :
    Fewer s (rmwDestroyClient cfg (some n) (some i) s).2 :=
  OneObject.client.bearer.fewer OneObject.client.aside id (fun _ => rfl) wf.client
    wf.clientHandles hi (rmwDestroyClient_effect wf hn hi).1.ent (fun _ => .inl rfl)
    (rmwDestroyClient_talk wf hn hi)

/-- **`rmw_destroy_node`**, on a node in use. -/
theorem rmwDestroyNode_fewer (hn : n ∈ s.w.ent.node.elements) :
    Fewer s (rmwDestroyNode cfg (some n) s).2 := by
  have rule : NodeRule cfg n fun t => Reached cfg s t ∧ Fewer s t := reached_with hn
    (fun t i wf hn h hi _ => h.trans (rmwDestroyPublisher_fewer wf hn hi))
    (fun t i wf hn h hi _ => h.trans (rmwDestroySubscription_fewer wf hn hi))
    (fun t i wf hn h hi _ => h.trans (rmwDestroyService_fewer wf hn hi))
    fun t i wf hn h hi _ => h.trans (rmwDestroyClient_fewer wf hn hi)
  obtain ⟨t, ret, ⟨end_, fewer⟩, -, -, e⟩ := rule.run ⟨⟨.refl, wf, rfl, rfl, rfl⟩, .refl s⟩
  have hn' := rule.node t ⟨end_, fewer⟩
  rw [e]
  refine fewer.trans ?_
  exact Bearer.node.fewer Kind.node_aside (fun n => { n with context := none }) (fun _ => rfl)
    end_.wf.node end_.wf.nodeHandles hn' (destroyParticipant_effect end_.wf hn' ret).ent
    (fun _ => .inl rfl) (destroyParticipant_talk n ret)

end Destructions

/-! ## Calls -/

theorem Quiet.fewer {s t : State} (h : Quiet s t) : Fewer s t where
  memory := h.memory
  reliable c' reliable := by
    rw [State.Reliable, (h.session c').creationStream]
    exact reliable
  graph := h.graph
  holds k i id holds := by
    have cards : t.w.ent.cards k = s.w.ent.cards k := by
      cases k <;> simp only [Entities.cards, h.node, h.publisher, h.subscription, h.service, h.client,
        h.topic]
    rw [Entities.Holds, cards, h.topic] at holds
    exact holds

/-- The kinds of the objects a call creates. -/
def Call.objects : Call → List ObjectKind
  | .createNode .. => [.participant]
  | .createPublisher .. => [.topic, .publisher, .datawriter]
  | .createSubscription .. => [.topic, .subscriber, .datareader]
  | .createService .. => [.replier]
  | .createClient .. => [.requester]
  | _ => []

/-- The calls made while a context is open. -/
def Call.Inside : Call → Bool
  | .init _ | .shutdown _ => false
  | _ => true

theorem Wf.contextOf_only {s : State} (wf : Wf cfg s) {c : Nat} (only : s.w.ent.session.elements = [c]) :
    ∀ n ∈ s.w.ent.node.elements, s.w.ent.contextOf n = c := fun n hn => by
  obtain ⟨d, hd, shown⟩ := wf.context n hn
  rw [only, List.mem_singleton] at hd
  rw [Entities.contextOf, shown, hd]
  rfl

/-- A call inside the only context. -/
theorem perform_issues {s : State} (wf : Wf cfg s) {c : Nat} (only : s.w.ent.session.elements = [c])
    {call : Call} (inside : call.Inside = true) (defined : call.defined s.w.ent = true) :
    Issues c call.objects s (perform cfg call s).2 := by
  have context := wf.contextOf_only only
  have quiet : call.Quiet = true → Issues c call.objects s (perform cfg call s).2 := fun h =>
    (perform_quiet h s).fewer.issues _ _
  cases call with
  | init env => simp [Call.Inside] at inside
  | shutdown impl => simp [Call.Inside] at inside
  | createNode context' name namespace_ =>
    obtain rfl : context' = c := by simpa [Call.defined, only] using defined
    rcases rmwCreateNode_ends wf context' name namespace_ with same | ⟨i, n, ns, -, -, -, end_⟩
    · exact (Fewer.of_eq same).issues _ _
    · exact end_.issues
  | destroyNode node =>
    rcases rmwDestroyNode_cases wf node with ⟨n, rfl, hn⟩ | same
    · exact (rmwDestroyNode_fewer wf hn).issues _ _
    · exact (Fewer.of_eq (congrArg Prod.snd same)).issues _ _
  | createPublisher node typeSupport topicName qosPolicies =>
    exact (rmwCreatePublisher_ends wf node typeSupport topicName qosPolicies).issues context
  | destroyPublisher node publisher =>
    rcases rmwDestroyPublisher_cases wf node publisher with ⟨n, i, rfl, rfl, hn, hi⟩ | same
    · exact (rmwDestroyPublisher_fewer wf hn hi).issues _ _
    · exact (Fewer.of_eq (congrArg Prod.snd same)).issues _ _
  | createSubscription node typeSupport topicName qosPolicies =>
    exact (rmwCreateSubscription_ends wf node typeSupport topicName qosPolicies).issues context
  | destroySubscription node subscription =>
    rcases rmwDestroySubscription_cases wf node subscription with ⟨n, i, rfl, rfl, hn, hi⟩ | same
    · exact (rmwDestroySubscription_fewer wf hn hi).issues _ _
    · exact (Fewer.of_eq (congrArg Prod.snd same)).issues _ _
  | createService node typeSupport serviceName qosPolicies requestId =>
    exact (rmwCreateService_ends wf node typeSupport serviceName qosPolicies requestId).issues context
  | destroyService node service =>
    rcases rmwDestroyService_cases wf node service with ⟨n, i, rfl, rfl, hn, hi⟩ | same
    · exact (rmwDestroyService_fewer wf hn hi).issues _ _
    · exact (Fewer.of_eq (congrArg Prod.snd same)).issues _ _
  | createClient node typeSupport serviceName qosPolicies requestId =>
    exact (rmwCreateClient_ends wf node typeSupport serviceName qosPolicies requestId).issues context
  | destroyClient node client =>
    rcases rmwDestroyClient_cases wf node client with ⟨n, i, rfl, rfl, hn, hi⟩ | same
    · exact (rmwDestroyClient_fewer wf hn hi).issues _ _
    · exact (Fewer.of_eq (congrArg Prod.snd same)).issues _ _
  | _ => exact quiet rfl

end RmwMicroxrcedds
