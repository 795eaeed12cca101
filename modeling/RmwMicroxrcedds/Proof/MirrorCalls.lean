import RmwMicroxrcedds.Proof.Mirror
import RmwMicroxrcedds.Proof.Openings

/-!
# The calls that keep the mirror

A create function asks for objects with new ids under objects that are there, a destroy function deletes the
objects of the entity it takes away. So every call inside a context keeps the mirror, whatever the agent
answers.
-/

namespace RmwMicroxrcedds
set_option autoImplicit false

variable {cfg : Config} {c : Nat} {β : Type}

/-! ## Creations -/

/-- A call that draws an id of each of the kinds at most has kept the mirror. -/
structure Advances (c : Nat) (kinds : List ObjectKind) (s t : State) : Prop where
  mirrored : Mirrored c t
  counter : ∀ k, (t.w.ent.session.custom c).counter k ≤
    (s.w.ent.session.custom c).counter k + if k ∈ kinds then 1 else 0

section Calls

variable {s t : State} {n i : Nat} {kinds : List ObjectKind}

theorem Advances.refl (mirrored : Mirrored c s) : Advances c kinds s s :=
  ⟨mirrored, fun _ => Nat.le_add_right _ _⟩

theorem Created.advances {objects ks : List ObjectKind} {parent held : Option Nat} {ts : Slots Topic}
    {rs : List (XrceRequest × Bool)} (h : Created objects c parent held s ks ts rs t) (nodup : ks.Nodup)
    (valid : .invalid ∉ kinds) (less : ∀ k ∈ ks, k ∈ kinds) (room : Room c kinds s)
    (mirrored : Mirrored c s) (asks : AsksNew c s ks rs)
    (made : held ≠ none → ∀ k ∈ objects, ∃ p texts, (.create (s.w.ent.nextId c k) p texts, true) ∈ rs)
    (topics : ts.cards (·.ownerNode) (·.topicId) = s.w.ent.cards .topic ∨
      ∃ card, ts.cards (·.ownerNode) (·.topicId) = card :: s.w.ent.cards .topic ∧
        card.id = s.w.ent.nextId c .topic ∧
        ∃ p texts, (.create (s.w.ent.nextId c .topic) p texts, true) ∈ rs) : Advances c kinds s t := by
  have valid' : .invalid ∉ ks := fun mem => valid (less _ mem)
  have room' : Room c ks s := fun k mem => room k (less k mem)
  refine ⟨mirrored.grows (h.grows nodup valid' room' asks made topics), fun k => ?_⟩
  rw [h.counter nodup valid' room']
  by_cases mem : k ∈ ks
  · rw [if_pos mem, if_pos (less k mem)]
  · rw [if_neg mem]
    omega

/-- The participant of a node in use is there. -/
theorem Mirrored.participant (h : Mirrored c s) (hn : n ∈ s.w.ent.node.elements) :
    (s.w.ent.node.custom n).participantId ∈ s.objects :=
  h.known .participant ⟨n, (s.w.ent.node.custom n).context, (s.w.ent.node.custom n).participantId⟩
    (Slots.mem_cards.2 ⟨n, hn, rfl⟩)

theorem TwoObjects.Ends.advances [Element β] {two : TwoObjects β} {node : Option Nat}
    {typeSupport : Option (TypeSupport MessageTypeSupportCallbacks)} {topicName : Option CStr}
    (h : two.Ends cfg node typeSupport topicName s t) (ledger : Ledger cfg s.w.ent)
    (only : ∀ n ∈ s.w.ent.node.elements, s.w.ent.contextOf n = c)
    (valid : .invalid ∉ [.topic, two.outer, two.inner]) (room : Room c [.topic, two.outer, two.inner] s)
    (safe : ∀ n ∈ node, n ∈ s.w.ent.node.elements → ∀ ts ∈ typeSupport, ∀ name ∈ topicName, name ≠ [] →
      LeavesEarly cfg name ts → two.ep.StaleSafe s.w.ent)
    (mirrored : Mirrored c s) : Advances c [.topic, two.outer, two.inner] s t := by
  rcases h with rfl | ⟨n, i, ts, name, rfl, hn, rfl, rfl, named, slot, held, ks, topics, rs, outcome,
    created⟩
  · exact .refl mirrored
  obtain rfl := only n hn
  have asks := outcome.asks (mirrored.participant hn)
  have some_topic := outcome.topics ledger slot (safe n rfl hn ts rfl name rfl named)
  exact created.advances (outcome.drawn.nodup two.kinds) valid (fun _ mem => outcome.drawn.subset mem) room mirrored
    asks outcome.made_requests some_topic

section Single

variable {k : ObjectKind} {parent : Option UxrObjectId} {texts : Option (List CStr)} {forgets : Bool}
  {leaves : Prop} {held owner : Option Nat} {ks : List ObjectKind} {rs : List (XrceRequest × Bool)}

/-- An entity with a single object comes, and the agent knows the object. -/
theorem SingleEnd.advances (h : SingleEnd s c k i parent texts forgets leaves held ks rs)
    (created : Created [k] c owner held s ks s.w.ent.topic rs t) (valid : k ≠ .invalid)
    (here : ∀ p ∈ parent, p ∈ s.objects) (told : forgets = true → texts ≠ none) (room : Room c [k] s)
    (mirrored : Mirrored c s) : Advances c [k] s t := by
  have asked : ∀ ts b, AsksNew c s [k] [(.create (s.w.ent.nextId c k) parent ts, b)] := fun ts b =>
    AsksNew.nil.create List.not_mem_nil here ts b
  have fresh : ObjectKind.invalid ∉ [k] := by simpa using fun e => valid e.symm
  cases h with
  | early =>
    exact created.advances .nil fresh (by simp) room mirrored .nil (fun ne => absurd rfl ne) (.inl rfl)
  | untold text =>
    have none : forgets = false := by
      by_contra yes
      exact told (Bool.not_eq_false _ ▸ yes) text
    subst none
    exact created.advances (List.nodup_singleton k) fresh (fun _ => id) room mirrored .nil
      (fun ne => absurd rfl ne) (.inl rfl)
  | refused text =>
    exact created.advances (List.nodup_singleton k) fresh (fun _ => id) room mirrored (asked _ _)
      (fun ne => absurd rfl ne) (.inl rfl)
  | made text =>
    refine created.advances (List.nodup_singleton k) fresh (fun _ => id) room mirrored (asked _ _)
      (fun _ k' own => ?_) (.inl rfl)
    obtain rfl := List.mem_singleton.1 own
    exact ⟨parent, _, List.mem_cons_self⟩

theorem OneObject.Ends.advances [Element β] {one : OneObject β} {node : Option Nat}
    (h : one.Ends node s t) (only : ∀ n ∈ s.w.ent.node.elements, s.w.ent.contextOf n = c)
    (valid : one.object ≠ .invalid) (room : Room c [one.object] s) (mirrored : Mirrored c s) :
    Advances c [one.object] s t := by
  rcases h with rfl | ⟨n, i, -, hn, -, held, texts, ks, rs, end_, created⟩
  · exact .refl mirrored
  · obtain rfl := only n hn
    refine end_.advances created valid (fun p mem => ?_) (by simp) room mirrored
    obtain rfl := Option.some.inj mem
    exact mirrored.participant hn

theorem NodeEnd.advances {name namespace_ : CStr} (h : NodeEnd cfg c name namespace_ i s t)
    (named : participantText cfg name namespace_ ≠ none) (room : Room c [.participant] s)
    (mirrored : Mirrored c s) : Advances c [.participant] s t := by
  obtain ⟨held, ks, rs, end_, created, -⟩ := h
  exact end_.advances created (by simp) (by simp) (fun _ => by simpa using named) room mirrored

end Single

/-! ## Destructions -/

theorem Talk.shrinks {qs : List XrceRequest} (talk : Talk qs s t)
    (session : t.w.ent.session = s.w.ent.session)
    (cards : ∀ k, (t.w.ent.cards k).Sublist (s.w.ent.cards k))
    (about : ∀ q ∈ qs, ∃ k, ∃ card ∈ s.w.ent.cards k,
      q = .cancelData card.id ∨ q = .deleteEntity card.id ∧ card ∉ t.w.ent.cards k)
    (order : DeletesLast qs) : Shrinks c s t := by
  obtain ⟨rs, requests, rfl⟩ := talk.requests
  exact ⟨by rw [session], cards, rs, requests, fun r hr => about r.1 (List.mem_map_of_mem hr), order⟩

/-- The card of the slot is gone. -/
theorem Slots.card_gone {t u : Slots β} (nodup : t.elements.Nodup)
    (elements : u.elements = t.elements.erase i) {parent : β → Option Nat} {id : β → UxrObjectId}
    {card : Card} (slot : card.slot = i) : card ∉ u.cards parent id := by
  intro mem
  obtain ⟨j, hj, rfl⟩ := mem_cards.1 mem
  rw [elements, nodup.mem_erase_iff] at hj
  exact hj.1 slot

theorem Shrinks.advances (h : Shrinks c s t) (mirrored : Mirrored c s) : Advances c kinds s t :=
  ⟨mirrored.shrinks h, fun k => by rw [h.counter]; exact Nat.le_add_right _ _⟩

/-- An endpoint goes with its topic. -/
theorem TwoObjects.shrinks [Element β] (two : TwoObjects β) {size x : Nat} (ledger : Ledger cfg s.w.ent)
    (mirrored : Mirrored c s) (ok : (two.ep.kind.slots s.w.ent).Ok size)
    (hs : Handles (two.ep.kind.slots s.w.ent)) (hi : i ∈ (two.ep.kind.slots s.w.ent).elements)
    (topic : two.ep.topicOf s.w.ent i = some x) (hx : x ∈ s.w.ent.topic.elements)
    (ent : t.w.ent = two.ep.destroyed i s.w.ent) (removed : Removed s t) {cancels : List XrceRequest}
    (quiet : ∀ q ∈ cancels, q = .cancelData (two.innerId ((two.ep.kind.slots s.w.ent).custom i)))
    (talk : Talk ([.deleteEntity (two.outerId ((two.ep.kind.slots s.w.ent).custom i)),
      .deleteEntity (two.innerId ((two.ep.kind.slots s.w.ent).custom i)),
      .deleteEntity (s.w.ent.topic.custom x).topicId] ++ cancels) s t) : Shrinks c s t := by
  set b := (two.ep.kind.slots s.w.ent).custom i
  set outer : Card := ⟨i, two.ownerNode b, two.outerId b⟩
  set inner : Card := ⟨i, two.ownerNode b, two.innerId b⟩
  set its : Card := ⟨x, (s.w.ent.topic.custom x).ownerNode, (s.w.ent.topic.custom x).topicId⟩
  have outerHeld : outer ∈ s.w.ent.cards two.outer := by
    rw [two.cards_outer]
    exact Slots.mem_cards.2 ⟨i, hi, rfl⟩
  have innerHeld : inner ∈ s.w.ent.cards two.inner := by
    rw [two.cards_inner]
    exact Slots.mem_cards.2 ⟨i, hi, rfl⟩
  have itsHeld : its ∈ s.w.ent.cards .topic := Slots.mem_cards.2 ⟨x, hx, rfl⟩
  have released : destroyedTopic (deref (two.ep.topicOf s.w.ent i)) s.w.ent = RmwMicroxrcedds.finiTopic x s.w.ent := by
    rw [topic, destroyedTopic]
    exact if_neg (ledger.topics.owned x hx)
  rw [Endpoint.destroyed, released] at ent
  obtain ⟨-, -, elements, -⟩ := ok.fini hs hi id fun _ => rfl
  have outerGone : outer ∉ t.w.ent.cards two.outer := by
    rw [ent, two.cards_outer, two.ep.kind.slots_withSlots]
    exact Slots.card_gone ok.nodup elements rfl
  have innerGone : inner ∉ t.w.ent.cards two.inner := by
    rw [ent, two.cards_inner, two.ep.kind.slots_withSlots]
    exact Slots.card_gone ok.nodup elements rfl
  have itsGone : its ∉ t.w.ent.cards .topic := by
    rw [ent, Entities.cards, two.ep.topics_withSlots]
    exact Slots.card_gone ledger.topics.ok.nodup (ledger.topics.release hx).elements rfl
  -- the three objects are of different kinds
  have kinds := two.kinds
  simp only [List.nodup_cons, List.mem_cons, List.not_mem_nil, or_false, not_or] at kinds
  have apart : ∀ {k k' : ObjectKind} {a a' : Card}, k ≠ k' → a ∈ s.w.ent.cards k → a' ∈ s.w.ent.cards k' →
      a.id ≠ a'.id := by
    intro k k' a a' ne ha ha' same
    apply ne
    rw [← mirrored.typed k a ha, ← mirrored.typed k' a' ha', same]
  apply talk.shrinks removed.session removed.cards
  · intro q mem
    rcases List.mem_append.1 mem with mem | mem
    · simp only [List.mem_cons, List.not_mem_nil, or_false] at mem
      rcases mem with rfl | rfl | rfl
      · exact ⟨_, outer, outerHeld, .inr ⟨rfl, outerGone⟩⟩
      · exact ⟨_, inner, innerHeld, .inr ⟨rfl, innerGone⟩⟩
      · exact ⟨_, its, itsHeld, .inr ⟨rfl, itsGone⟩⟩
    · exact ⟨_, inner, innerHeld, .inl (quiet q mem)⟩
  · refine DeletesLast.after_cancels ?_ fun q mem => ⟨_, quiet q mem⟩
    have outerInner := apart (fun e => kinds.2.1 e) outerHeld innerHeld
    have outerIts := apart (fun e => kinds.1.1 e.symm) outerHeld itsHeld
    have innerIts := apart (fun e => kinds.1.2 e.symm) innerHeld itsHeld
    simp only [DeletesLast, List.pairwise_cons, List.mem_cons, List.not_mem_nil, or_false, forall_eq_or_imp, forall_eq,
      XrceRequest.deleteEntity.injEq, ne_eq, reduceCtorEq, not_false_eq_true, true_and, forall_eq',
      List.Pairwise.nil, and_true, IsEmpty.forall_iff, implies_true]
    exact ⟨⟨outerInner, outerIts⟩, innerIts⟩

/-- An entity with a single object goes. -/
theorem Bearer.shrinks [Element β] (b : Bearer β) {k : ObjectKind} (own : k ∈ b.objects) {size : Nat}
    (clear : β → β) (keep : ∀ b, Element.handle (clear b) = Element.handle b)
    (ok : (b.kind.slots s.w.ent).Ok size) (hs : Handles (b.kind.slots s.w.ent))
    (hi : i ∈ (b.kind.slots s.w.ent).elements)
    (ent : t.w.ent = b.kind.withSlots ((b.kind.slots s.w.ent).fini clear i) s.w.ent)
    (removed : Removed s t) {cancels : List XrceRequest}
    (quiet : ∀ q ∈ cancels, q = .cancelData (b.id k ((b.kind.slots s.w.ent).custom i)))
    (talk : Talk (.deleteEntity (b.id k ((b.kind.slots s.w.ent).custom i)) :: cancels) s t) :
    Shrinks c s t := by
  set card : Card := ⟨i, b.parent ((b.kind.slots s.w.ent).custom i), b.id k ((b.kind.slots s.w.ent).custom i)⟩
  have held : card ∈ s.w.ent.cards k := by
    rw [b.own _ k own]
    exact Slots.mem_cards.2 ⟨i, hi, rfl⟩
  have gone : card ∉ t.w.ent.cards k := by
    obtain ⟨-, -, elements, -⟩ := ok.fini hs hi clear keep
    rw [ent, b.own _ k own, b.kind.slots_withSlots]
    exact Slots.card_gone ok.nodup elements rfl
  apply talk.shrinks removed.session removed.cards
  · intro q mem
    rcases List.mem_cons.1 mem with rfl | mem
    · exact ⟨k, card, held, .inr ⟨rfl, gone⟩⟩
    · exact ⟨k, card, held, .inl (quiet q mem)⟩
  · exact DeletesLast.after_cancels (List.pairwise_singleton _ _) fun q mem => ⟨_, quiet q mem⟩

section Destroys

variable (wf : Wf cfg s)

include wf

theorem rmwDestroyPublisher_shrinks (mirrored : Mirrored c s) (ledger : Ledger cfg s.w.ent)
    (hn : n ∈ s.w.ent.node.elements) (hi : i ∈ s.w.ent.publisher.elements) :
    Shrinks c s (rmwDestroyPublisher cfg (some n) (some i) s).2 := by
  obtain ⟨x, hx, topic⟩ := Endpoint.publisher.topicOf_mem ledger hi
  have talk := rmwDestroyPublisher_talk wf hn hi
  have shown : (s.w.ent.publisher.custom i).topic = some x := topic
  rw [shown, show deref (some x) = x from rfl, Entities.topicRequests_owned (ledger.topics.owned x hx)] at talk
  exact TwoObjects.publisher.shrinks ledger mirrored wf.publisher wf.publisherHandles hi topic hx
    (rmwDestroyPublisher_effect wf hn hi).1.ent (rmwDestroyPublisher_removed wf ledger hn hi)
    (fun _ mem => absurd mem List.not_mem_nil) talk

theorem rmwDestroySubscription_shrinks (mirrored : Mirrored c s) (ledger : Ledger cfg s.w.ent)
    (hn : n ∈ s.w.ent.node.elements) (hi : i ∈ s.w.ent.subscription.elements) :
    Shrinks c s (rmwDestroySubscription cfg (some n) (some i) s).2 := by
  obtain ⟨x, hx, topic⟩ := Endpoint.subscription.topicOf_mem ledger hi
  have talk := rmwDestroySubscription_talk wf hn hi
  have shown : (s.w.ent.subscription.custom i).topic = some x := topic
  rw [shown, show deref (some x) = x from rfl, Entities.topicRequests_owned (ledger.topics.owned x hx)] at talk
  refine TwoObjects.subscription.shrinks ledger mirrored wf.subscription wf.subscriptionHandles hi topic hx
    (rmwDestroySubscription_effect wf hn hi).1.ent (rmwDestroySubscription_removed wf ledger hn hi)
    (fun q mem => ?_) talk
  exact List.mem_singleton.1 mem

theorem rmwDestroyService_shrinks (hn : n ∈ s.w.ent.node.elements) (hi : i ∈ s.w.ent.service.elements) :
    Shrinks c s (rmwDestroyService cfg (some n) (some i) s).2 :=
  OneObject.service.bearer.shrinks (k := .replier) List.mem_cons_self id (fun _ => rfl) wf.service
    wf.serviceHandles hi (rmwDestroyService_effect wf hn hi).1.ent (rmwDestroyService_removed wf hn hi)
    (fun _ mem => List.mem_singleton.1 mem) (rmwDestroyService_talk wf hn hi)

theorem rmwDestroyClient_shrinks (hn : n ∈ s.w.ent.node.elements) (hi : i ∈ s.w.ent.client.elements) :
    Shrinks c s (rmwDestroyClient cfg (some n) (some i) s).2 :=
  OneObject.client.bearer.shrinks (k := .requester) List.mem_cons_self id (fun _ => rfl) wf.client
    wf.clientHandles hi (rmwDestroyClient_effect wf hn hi).1.ent (rmwDestroyClient_removed wf hn hi)
    (fun _ mem => List.mem_singleton.1 mem) (rmwDestroyClient_talk wf hn hi)

theorem destroyParticipant_shrinks (hn : n ∈ s.w.ent.node.elements) (ret : RmwRet) :
    Shrinks c s (destroyParticipant cfg n n ret s).2 := by
  have ent := (destroyParticipant_effect wf hn ret).ent
  have talk : Talk _ s (destroyParticipant cfg n n ret s).2 := destroyParticipant_talk n ret
  refine Bearer.node.shrinks (k := .participant) List.mem_cons_self (fun n => { n with context := none })
    (fun _ => rfl) wf.node wf.nodeHandles hn ent ?_ (fun _ mem => absurd mem List.not_mem_nil) talk
  exact Bearer.node.removed Kind.node_aside (fun n => { n with context := none }) (fun _ => rfl) wf.node
    wf.nodeHandles hn ent talk (by simp) fun k hk => List.mem_cons_self

/-- **`rmw_destroy_node`**, on a node in use. -/
theorem rmwDestroyNode_advances (mirrored : Mirrored c s) (ledger : Ledger cfg s.w.ent)
    (hn : n ∈ s.w.ent.node.elements) :
    Advances c kinds s (rmwDestroyNode cfg (some n) s).2 := by
  set counter := (s.w.ent.session.custom c).counter
  have rule : NodeRule cfg n fun t => Reached cfg s t ∧ Ledger cfg t.w.ent ∧ Mirrored c t ∧
      (t.w.ent.session.custom c).counter = counter := by
    apply reached_with hn
    · rintro t i wf hn ⟨kept, mirrored, same⟩ hi -
      have d := rmwDestroyPublisher_shrinks wf mirrored kept hn hi
      exact ⟨rmwDestroyPublisher_ledger wf kept hn hi, mirrored.shrinks d, d.counter.trans same⟩
    · rintro t i wf hn ⟨kept, mirrored, same⟩ hi -
      have d := rmwDestroySubscription_shrinks wf mirrored kept hn hi
      exact ⟨rmwDestroySubscription_ledger wf kept hn hi, mirrored.shrinks d, d.counter.trans same⟩
    · rintro t i wf hn ⟨kept, mirrored, same⟩ hi -
      have d := rmwDestroyService_shrinks (c := c) wf hn hi
      exact ⟨rmwDestroyService_ledger wf kept hn hi, mirrored.shrinks d, d.counter.trans same⟩
    · rintro t i wf hn ⟨kept, mirrored, same⟩ hi -
      have d := rmwDestroyClient_shrinks (c := c) wf hn hi
      exact ⟨rmwDestroyClient_ledger wf kept hn hi, mirrored.shrinks d, d.counter.trans same⟩
  obtain ⟨t, ret, end_, -, -, e⟩ := rule.run ⟨⟨.refl, wf, rfl, rfl, rfl⟩, ledger, mirrored, rfl⟩
  have hn' := rule.node t end_
  obtain ⟨reached, -, mirrored', same⟩ := end_
  have d := destroyParticipant_shrinks (c := c) reached.wf hn' ret
  rw [e]
  refine ⟨mirrored'.shrinks d, fun k => ?_⟩
  rw [d.counter, same]
  exact Nat.le_add_right _ _

end Destroys

end Calls

/-! ## Calls -/

/-- No node goes without a text for its participant, as it would where the reference does not fit. -/
def ParticipantsNamed (cfg : Config) : Prop := ∀ name namespace_, participantText cfg name namespace_ ≠ none

theorem Quiet.advances {s t : State} {kinds : List ObjectKind} (h : Quiet s t) (mirrored : Mirrored c s) :
    Advances c kinds s t := by
  have counter : (t.w.ent.session.custom c).counter = (s.w.ent.session.custom c).counter :=
    funext (h.session c).counter
  have cards : t.w.ent.cards = s.w.ent.cards := by
    funext k
    cases k <;> simp only [Entities.cards, h.node, h.publisher, h.subscription, h.service, h.client, h.topic]
  have grows : Grows c s t := by
    refine ⟨⟨[], [], .nil, h.requests, by simp, by simp, fun k => .inl (by rw [cards])⟩, fun k => ?_⟩
    rw [counter]
  exact ⟨mirrored.grows grows, fun k => by rw [counter]; exact Nat.le_add_right _ _⟩

/-- **A call inside the only context** keeps the mirror. -/
theorem perform_advances {s : State} (wf : Wf cfg s) (ledger : Ledger cfg s.w.ent)
    (only : s.w.ent.session.elements = [c]) {call : Call} (inside : call.Inside = true)
    (defined : call.defined s.w.ent = true) (safe : call.StaleSafe cfg s.w.ent)
    (named : ParticipantsNamed cfg) (room : Room c call.objects s) (mirrored : Mirrored c s) :
    Advances c call.objects s (perform cfg call s).2 := by
  have context := wf.contextOf_only only
  have quiet : call.Quiet = true → Advances c call.objects s (perform cfg call s).2 := fun h =>
    Quiet.advances (perform_quiet h s) mirrored
  have nothing : ∀ {t : State}, t = s → Advances c call.objects s t := fun same => by
    rw [same]
    exact .refl mirrored
  cases call with
  | init env => simp [Call.Inside] at inside
  | shutdown impl => simp [Call.Inside] at inside
  | createNode context' name namespace_ =>
    obtain rfl : context' = c := by simpa [Call.defined, only] using defined
    rcases rmwCreateNode_ends wf context' name namespace_ with same | ⟨i, n, ns, -, -, -, end_⟩
    · exact nothing same
    · exact end_.advances (named n ns) room mirrored
  | destroyNode node =>
    rcases rmwDestroyNode_cases wf node with ⟨n, rfl, hn⟩ | same
    · exact rmwDestroyNode_advances wf mirrored ledger hn
    · exact nothing (congrArg Prod.snd same)
  | createPublisher node typeSupport topicName qosPolicies =>
    cases qosPolicies with
    | none =>
      refine nothing ?_
      cases node <;> cases typeSupport <;> cases topicName <;> rfl
    | some qos =>
      apply (rmwCreatePublisher_ends wf node typeSupport topicName (some qos)).advances ledger context
        (by decide) room _ mirrored
      intro n hn inUse ts hts name hname named leaves
      exact safe ⟨n, hn, inUse, ts, hts, name, hname, named, by simp, leaves⟩
  | destroyPublisher node publisher =>
    rcases rmwDestroyPublisher_cases wf node publisher with ⟨n, i, rfl, rfl, hn, hi⟩ | same
    · exact (rmwDestroyPublisher_shrinks wf mirrored ledger hn hi).advances mirrored
    · exact nothing (congrArg Prod.snd same)
  | createSubscription node typeSupport topicName qosPolicies =>
    cases qosPolicies with
    | none =>
      refine nothing ?_
      cases node <;> cases typeSupport <;> cases topicName <;> rfl
    | some qos =>
      apply (rmwCreateSubscription_ends wf node typeSupport topicName (some qos)).advances ledger context
        (by decide) room _ mirrored
      intro n hn inUse ts hts name hname named leaves
      exact safe ⟨n, hn, inUse, ts, hts, name, hname, named, by simp, leaves⟩
  | destroySubscription node subscription =>
    rcases rmwDestroySubscription_cases wf node subscription with ⟨n, i, rfl, rfl, hn, hi⟩ | same
    · exact (rmwDestroySubscription_shrinks wf mirrored ledger hn hi).advances mirrored
    · exact nothing (congrArg Prod.snd same)
  | createService node typeSupport serviceName qosPolicies requestId =>
    exact (rmwCreateService_ends wf node typeSupport serviceName qosPolicies requestId).advances context
      (by decide) room mirrored
  | destroyService node service =>
    rcases rmwDestroyService_cases wf node service with ⟨n, i, rfl, rfl, hn, hi⟩ | same
    · exact (rmwDestroyService_shrinks wf hn hi).advances mirrored
    · exact nothing (congrArg Prod.snd same)
  | createClient node typeSupport serviceName qosPolicies requestId =>
    exact (rmwCreateClient_ends wf node typeSupport serviceName qosPolicies requestId).advances context
      (by decide) room mirrored
  | destroyClient node client =>
    rcases rmwDestroyClient_cases wf node client with ⟨n, i, rfl, rfl, hn, hi⟩ | same
    · exact (rmwDestroyClient_shrinks wf hn hi).advances mirrored
    · exact nothing (congrArg Prod.snd same)
  | _ => exact quiet rfl

/-! ## Opening a context -/

section Opening

open Triples

/-- Nothing has been asked, and one id has been drawn of each of the kinds. -/
structure Begun (c : Nat) (ks : List ObjectKind) (s : State) : Prop where
  requests : s.requests = []
  counter : ∀ k, (s.w.ent.session.custom c).counter k = if k ∈ ks then 1 else 0

variable {ks : List ObjectKind} {α : Type} {Q : α → State → Prop}

theorem Begun.keep {s t : State} (h : Begun c ks s) (ent : t.w.ent.session.custom = s.w.ent.session.custom)
    (requests : t.requests = s.requests) : Begun c ks t :=
  ⟨requests.trans h.requests, fun k => by rw [ent]; exact h.counter k⟩

theorem Begun.draw {k : ObjectKind} (fresh : k ∉ ks) (valid : k ≠ .invalid) {rest : Nat → Prog α}
    (next : Hoare (Begun c (k :: ks)) (rest 0) Q) : Hoare (Begun c ks) (drawId c k >>= rest) Q :=
  Hoare.of fun s h => by
    have run : drawId c k s = ((s.w.ent.session.custom c).counter k,
        s.mapEnt fun e => { e with session := e.session.update c (·.draw k) }) := rfl
    rw [Prog.bind_run, run, h.counter k, if_neg fresh]
    refine (next (s.mapEnt fun e => { e with session := e.session.update c (·.draw k) })
      ⟨h.requests, fun k' => ?_⟩).2
    show ((s.w.ent.session.update c (·.draw k)).custom c).counter k' = _
    rw [Slots.update_custom_self]
    by_cases invalid : k' = .invalid
    · subst invalid
      have none := h.counter .invalid
      have same : (Session.draw (s.w.ent.session.custom c) k).counter .invalid = 0 := rfl
      have zero : (s.w.ent.session.custom c).counter .invalid = 0 := rfl
      rw [zero] at none
      rw [same, if_neg]
      intro mem
      rcases List.mem_cons.1 mem with e | mem
      · exact valid e.symm
      · rw [if_pos mem] at none
        cases none
    · rw [Session.counter_draw _ _ _ invalid, h.counter k']
      by_cases e : k' = k
      · subst e
        simp [fresh]
      · simp [e]

/-- The graph entities. -/
def graphIds : List UxrObjectId := [⟨0, .participant⟩, ⟨0, .subscriber⟩, ⟨0, .topic⟩, ⟨0, .datareader⟩]

/-- The dialogue and the counters of a context that has just been opened. -/
def Opened (c : Nat) (s : State) : Prop :=
  ∃ ks : List ObjectKind, (∀ k, (s.w.ent.session.custom c).counter k = if k ∈ ks then 1 else 0) ∧
    (s.requests = [] ∨ (∀ id ∈ graphIds, id.type ∈ ks) ∧ ∃ b, s.requests = [(.createGraph graphIds, b)])

theorem Begun.opened {s : State} (h : Begun c ks s) : Opened c s := ⟨ks, h.counter, .inl h.requests⟩

theorem Begun.run {s : State} (session : Nat) (h : Begun c ks s) :
    Begun c ks (uxrRunSession cfg session s).2 := by
  obtain ⟨_, ent, -, requests, -⟩ := uxrRunSession_spec cfg session s
  exact h.keep (by rw [ent]) requests

theorem Opened.run {s : State} (session : Nat) (h : Opened c s) : Opened c (uxrRunSession cfg session s).2 := by
  obtain ⟨_, ent, -, requests, -⟩ := uxrRunSession_spec cfg session s
  rw [Opened, ent, requests]
  exact h

theorem rmwGraphInit_opened (graphTypeSupport : MessageTypeSupportCallbacks) :
    Hoare (Begun c []) (rmwGraphInit cfg graphTypeSupport c) fun _ => Opened c := by
  unfold rmwGraphInit
  simp only [postIncrement_idParticipant, postIncrement_idSubscriber, postIncrement_idDatareader,
    postIncrement_idTopic]
  refine Begun.draw (by simp) (by simp) (Begun.draw (by simp) (by simp) ?_)
  refine Begun.draw (by simp) (by simp) (Begun.draw (by simp) (by simp) ?_)
  refine Triple.bind (M := fun _ => Begun c [.topic, .datareader, .subscriber, .participant])
    (Hoare.of fun s h => h.keep rfl rfl) fun _ => ?_
  refine Triple.ite (fun _ => Triple.pure fun s h => h.opened) fun _ => ?_
  refine Triple.bind (M := fun _ => Begun c [.topic, .datareader, .subscriber, .participant])
    (Hoare.of fun s h => h.run c) fun confirmed => ?_
  refine Hoare.of fun s h => ⟨_, h.counter, .inr ⟨by decide, confirmed, ?_⟩⟩
  show (XrceRequest.createGraph graphIds, confirmed) :: s.requests = _
  rw [h.requests]

theorem rmwInit_opened (env : InitEnvironment) :
    Hoare (fun s => s.requests = []) (rmwInit cfg env) fun r s => ∀ c ∈ r.2, Opened c s := by
  unfold rmwInit
  refine Triple.bind (M := fun _ s => s.requests = []) (Hoare.of fun s h => h) fun _ => ?_
  refine Triple.bind (M := fun _ s => s.requests = []) (Hoare.of fun s h => ?_) fun slot => ?_
  · show (getMemory .session s).2.requests = []
    unfold getMemory
    exact h
  cases slot with
  | none => exact Triple.pure fun s h => by simp
  | some context =>
    have gaveUp : ∀ {ret : RmwRet} {held : Bool} {P : State → Prop}, Hoare P (do
        initFail cfg context held
        return (ret, none) : Prog (RmwRet × Option Nat)) fun r s => ∀ c ∈ r.2, Opened c s :=
      Hoare.of fun s h c mem => absurd (show (none : Option Nat) = some c from mem) (by simp)
    refine Triple.bind (M := fun _ => Begun context []) (Hoare.of fun s h => ⟨h, fun k => ?_⟩) fun _ => ?_
    · show ((s.w.ent.session.update context (initContext cfg env)).custom context).counter k = _
      rw [Slots.update_custom_self]
      cases k <;> rfl
    refine Triple.bind (M := fun _ => Begun context []) (Hoare.of fun s h => h.keep rfl rfl) fun _ => ?_
    refine Triple.bind (M := fun _ => Begun context []) (Hoare.of fun s h => h.keep rfl rfl) fun _ => ?_
    refine Triple.ite (fun _ => gaveUp) fun _ => ?_
    refine Triple.bind (M := fun _ => Begun context []) (Hoare.of fun s h => h.run context) fun confirmed => ?_
    refine Triple.ite (fun _ => ?_) fun _ => gaveUp
    have here : ∀ {ret : RmwRet}, Hoare (Opened context) (Pure.pure (ret, some context))
        fun (r : RmwRet × Option Nat) s => ∀ c ∈ r.2, Opened c s := Triple.pure fun s h c mem => by
      obtain rfl := Option.some.inj mem
      exact h
    refine Triple.ite (fun _ => ?_) fun _ => Triple.strengthen here fun s h => h.opened
    refine Triple.bind (rmwGraphInit_opened env.graphTypeSupport) fun ret => Triple.ite (fun _ => ?_) fun _ => here
    exact Triple.bind (M := fun _ => Opened context) (Hoare.of fun s h => h.run context) fun _ => here

/-- A context that has just been opened mirrors the agent. -/
theorem Opened.mirrored {s : State} (h : Opened c s) (empty : ∀ k, s.w.ent.cards k = []) :
    Mirrored c s ∧ ∀ k, (s.w.ent.session.custom c).counter k ≤ 1 := by
  obtain ⟨ks, counter, asked⟩ := h
  have told : Registry.Legal s.dialogue ∧ s.graphObjects = s.objects ∧
      ∀ id ∈ s.objects, id.id < (s.w.ent.session.custom c).counter id.type := by
    rw [State.objects, State.dialogue, State.graphObjects]
    rcases asked with none | ⟨drawn, b, one⟩
    · rw [none]
      exact ⟨trivial, rfl, by simp [Registry.objects]⟩
    · rw [one]
      refine ⟨⟨⟨by decide, by simp [Registry.objects], by simp⟩, trivial⟩, ?_, fun id mem => ?_⟩
      · cases b <;> rfl
      · have known : id ∈ graphIds := by
          cases b with
          | true => exact mem
          | false => cases mem
        have zero : ∀ id ∈ graphIds, id.id = 0 := by decide
        rw [zero id known, counter, if_pos (drawn id known)]
        omega
  have none : ∀ {P : Card → Prop} k, ∀ card ∈ s.w.ent.cards k, P card := fun k card mem => by
    rw [empty] at mem
    cases mem
  obtain ⟨legal, graph, below⟩ := told
  constructor
  · exact ⟨legal, below, fun k => none k, fun k => none k, fun k a ha =>
      none (P := fun a => ∀ b ∈ s.w.ent.cards k, a.id = b.id → a = b) k a ha,
      fun id mem => ⟨graph ▸ mem, fun k => none k⟩⟩
  · intro k
    rw [counter]
    split <;> omega

end Opening

end RmwMicroxrcedds
