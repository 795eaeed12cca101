import RmwMicroxrcedds.Proof.Issues

/-!
# The objects of the agent

Under the ledger, what a call has the agent create stands behind an entity in use when the call
ends, and what it takes out of use it has the agent delete. The exception is a publisher or
subscription that fails after the agent has confirmed its topic.
-/

namespace RmwMicroxrcedds
set_option autoImplicit false

variable {cfg : Config} {β : Type}

/-! ## The ledger over all calls -/

/-- If the call creates a publisher or subscription and gives up early, the topic that its slot still
shows can be released without harm. -/
def Call.StaleSafe (cfg : Config) (e : Entities) : Call → Prop
  | .createPublisher node typeSupport topicName qosPolicies =>
    GivesUp cfg e node typeSupport topicName qosPolicies → Endpoint.publisher.StaleSafe e
  | .createSubscription node typeSupport topicName qosPolicies =>
    GivesUp cfg e node typeSupport topicName qosPolicies → Endpoint.subscription.StaleSafe e
  | _ => True

/-- Every call but a shutdown keeps the ledger. -/
theorem perform_keeps_ledger {s : State} (wf : Wf cfg s) (before : Ledger cfg s.w.ent) {c : Call}
    (open_ : c.kind ≠ .shutdown) (safe : c.StaleSafe cfg s.w.ent) :
    Ledger cfg (perform cfg c s).2.w.ent := by
  have quiet : c.Quiet = true → Ledger cfg (perform cfg c s).2.w.ent := fun h => by
    have kept : Quiet s (perform cfg c s).2 := perform_quiet h s
    exact before.of_endpoints kept.publisher kept.subscription kept.topic
  have nothing : ∀ {t : State}, t = s → Ledger cfg t.w.ent := fun same => same ▸ before
  cases c with
  | init env => exact ((rmwInit_hoare env) s ⟨wf.publisher, wf.subscription, before⟩).2.ledger
  | shutdown impl => exact absurd rfl open_
  | createNode context name namespace_ =>
    exact (rmwCreateNode_ledger wf before (some context) name namespace_).1
  | destroyNode node =>
    rcases rmwDestroyNode_cases wf node with ⟨n, rfl, hn⟩ | same
    · exact rmwDestroyNode_ledger wf before hn
    · exact nothing (congrArg Prod.snd same)
  | createPublisher node typeSupport topicName qosPolicies =>
    exact (rmwCreatePublisher_ledger wf before _ _ _ _ safe).1
  | destroyPublisher node publisher =>
    rcases rmwDestroyPublisher_cases wf node publisher with ⟨n, i, rfl, rfl, hn, hi⟩ | same
    · exact rmwDestroyPublisher_ledger wf before hn hi
    · exact nothing (congrArg Prod.snd same)
  | createSubscription node typeSupport topicName qosPolicies =>
    exact (rmwCreateSubscription_ledger wf before _ _ _ _ safe).1
  | destroySubscription node subscription =>
    rcases rmwDestroySubscription_cases wf node subscription with ⟨n, i, rfl, rfl, hn, hi⟩ | same
    · exact rmwDestroySubscription_ledger wf before hn hi
    · exact nothing (congrArg Prod.snd same)
  | createService node typeSupport serviceName qosPolicies requestId =>
    exact (rmwCreateService_kept wf before node typeSupport serviceName qosPolicies requestId).1
  | destroyService node service =>
    rcases rmwDestroyService_cases wf node service with ⟨n, i, rfl, rfl, hn, hi⟩ | same
    · exact rmwDestroyService_ledger wf before hn hi
    · exact nothing (congrArg Prod.snd same)
  | createClient node typeSupport serviceName qosPolicies requestId =>
    exact (rmwCreateClient_kept wf before node typeSupport serviceName qosPolicies requestId).1
  | destroyClient node client =>
    rcases rmwDestroyClient_cases wf node client with ⟨n, i, rfl, rfl, hn, hi⟩ | same
    · exact rmwDestroyClient_ledger wf before hn hi
    · exact nothing (congrArg Prod.snd same)
  | _ => exact quiet rfl

/-! ## Topics that stay -/

/-- What was in use still is, with the same fields. -/
def Slots.Extends (t u : Slots β) : Prop := ∀ j ∈ t.elements, j ∈ u.elements ∧ u.custom j = t.custom j

theorem Slots.Extends.cards {t u : Slots β} (h : t.Extends u) {parent : β → Option Nat}
    {id : β → UxrObjectId} {card : Card} (mem : card ∈ t.cards parent id) : card ∈ u.cards parent id := by
  obtain ⟨j, hj, rfl⟩ := mem_cards.1 mem
  obtain ⟨hj', same⟩ := h j hj
  exact mem_cards.2 ⟨j, hj', by rw [same]⟩

section Topics

variable {size x : Nat} {ts : List Nat} {t : Slots Topic}

theorem Topics.extends_made (h : Topics cfg size ts t) (slot : t.get.1 = some x) {f : Topic → Topic}
    (owner : ∀ b, (f b).ownerNode ≠ none) :
    Topics cfg size (x :: ts) (t.get.2.update x f) ∧ t.Extends (t.get.2.update x f) := by
  have taken := h.take slot owner
  have fresh := (h.ok.get_some slot).2.1
  refine ⟨taken, fun j hj => ⟨?_, ?_⟩⟩
  · rw [taken.elements, ← h.elements]
    exact List.mem_cons_of_mem _ hj
  · have ne : j ≠ x := by
      rintro rfl
      exact fresh hj
    rw [Slots.update_custom_of_ne _ _ ne, Slots.get_custom]

theorem Topics.extends_fini (h : Topics cfg size ts t) {u : Slots Topic} (fresh : x ∉ t.elements)
    (taken : Topics cfg size (x :: ts) u) (more : t.Extends u) : t.Extends (u.finiTopic x) := by
  intro j hj
  have ne : j ≠ x := by
    rintro rfl
    exact fresh hj
  have released := (taken.release List.mem_cons_self).elements
  rw [List.erase_cons_head] at released
  refine ⟨?_, ?_⟩
  · rw [released, ← h.elements]
    exact hj
  · rw [Slots.finiTopic, Slots.update_custom_of_ne _ _ ne, Slots.put_custom]
    exact (more j hj).2

theorem Topics.extends_free (h : Topics cfg size ts t) (lt : x < size) (free : x ∉ ts)
    (head : t.memory.freeitems ≠ some x) : t.Extends (t.finiTopic x) := by
  intro j hj
  have ne : j ≠ x := by
    rintro rfl
    exact free (h.elements ▸ hj)
  refine ⟨?_, ?_⟩
  · rw [(h.release_free lt free head).elements, ← h.elements]
    exact hj
  · rw [Slots.finiTopic, Slots.update_custom_of_ne _ _ ne, Slots.put_custom]

end Topics

section Outcome

variable {n i : Nat} {name : CStr} {members : MessageTypeSupportCallbacks} {s₀ : State}
  {ks : List ObjectKind} {ts : Slots Topic} {rs : List (XrceRequest × Bool)}

theorem TopicEnd.extends (ledger : Ledger cfg s₀.w.ent) {topic : Option Nat}
    (h : TopicEnd cfg n name members s₀ topic ks ts rs) : s₀.w.ent.topic.Extends ts ∧
      ∀ x ∈ topic, x ∉ s₀.w.ent.topic.elements ∧
        Topics cfg s₀.w.ent.topic.memory.size (x :: s₀.w.ent.topic.elements) ts ∧
        (ts.custom x).topicId = s₀.w.ent.nextId (s₀.w.ent.contextOf n) .topic := by
  have made : ∀ {x}, s₀.w.ent.topic.get.1 = some x →
      let u := s₀.w.ent.topic.get.2.update x
        (namedTopic n members (s₀.w.ent.nextId (s₀.w.ent.contextOf n) .topic))
      x ∉ s₀.w.ent.topic.elements ∧
        Topics cfg s₀.w.ent.topic.memory.size (x :: s₀.w.ent.topic.elements) u ∧
        s₀.w.ent.topic.Extends u := fun slot =>
    ⟨(ledger.topics.ok.get_some slot).2.1, ledger.topics.extends_made slot (by simp [namedTopic])⟩
  cases h with
  | full slot =>
    rw [ledger.topics.ok.get_none slot]
    exact ⟨fun j hj => ⟨hj, rfl⟩, by simp⟩
  | unfit x slot =>
    obtain ⟨fresh, taken, more⟩ := made slot
    exact ⟨ledger.topics.extends_fini fresh taken more, by simp⟩
  | refused x slot =>
    obtain ⟨fresh, taken, more⟩ := made slot
    exact ⟨ledger.topics.extends_fini fresh taken more, by simp⟩
  | made x slot =>
    obtain ⟨fresh, taken, more⟩ := made slot
    refine ⟨more, fun y hy => ?_⟩
    obtain rfl : x = y := Option.some.inj hy
    exact ⟨fresh, taken, by rw [Slots.update_custom_self]; rfl⟩

theorem TwoObjects.Outcome.extends [Element β] {two : TwoObjects β} (ledger : Ledger cfg s₀.w.ent)
    {typeSupport : TypeSupport MessageTypeSupportCallbacks} {held : Option Nat}
    (slot : (two.ep.kind.slots s₀.w.ent).get.1 = some i)
    (safe : LeavesEarly cfg name typeSupport → two.ep.StaleSafe s₀.w.ent)
    (h : two.Outcome cfg n i name typeSupport s₀ held ks ts rs) : s₀.w.ent.topic.Extends ts ∧
      (held ≠ none → ∃ x ∈ ts.elements,
        (ts.custom x).topicId = s₀.w.ent.nextId (s₀.w.ent.contextOf n) .topic) := by
  have given : ∀ {members x ks ts rs}, TopicEnd cfg n name members s₀ (some x) ks ts rs →
      s₀.w.ent.topic.Extends (ts.finiTopic x) := fun topic => by
    obtain ⟨more, made⟩ := topic.extends ledger
    obtain ⟨fresh, taken, -⟩ := made _ rfl
    exact ledger.topics.extends_fini fresh taken more
  cases h with
  | early leaves =>
    refine ⟨?_, by simp⟩
    cases stale : two.ep.topicOf s₀.w.ent i with
    | none => exact fun j hj => ⟨hj, rfl⟩
    | some x =>
      obtain ⟨free, head⟩ := safe leaves i slot x stale
      have lt := ledger.bound x ((two.ep.mentions_iff _ x).2 (.inl ⟨i, stale⟩))
      exact ledger.topics.extends_free lt free head
  | topicless _ topic => exact ⟨(topic.extends ledger).1, by simp⟩
  | alone _ topic => exact ⟨given topic, by simp⟩
  | unnamed _ topic => exact ⟨given topic, by simp⟩
  | refused _ topic => exact ⟨given topic, by simp⟩
  | made _ topic =>
    obtain ⟨more, made⟩ := topic.extends ledger
    obtain ⟨-, taken, id⟩ := made _ rfl
    exact ⟨more, fun _ => ⟨_, taken.elements ▸ List.mem_cons_self, id⟩⟩

end Outcome

/-! ## What stands behind the objects of the agent -/

/-- Every object of the agent is that of an entity in use, and a participant only where participants
have a text to be created with. -/
def Backed (cfg : Config) (s : State) : Prop :=
  ∀ id ∈ agentObjects s.requests, ∃ k, ∃ card ∈ s.w.ent.cards k, card.id = id ∧
    (k = .participant → ∃ name namespace_, participantText cfg name namespace_ ≠ none)

section Backed

variable {s t : State}

/-- Entities have come, and with them whatever the agent has confirmed. -/
theorem Backed.more (h : Backed cfg s)
    (cards : ∀ k, ∀ card ∈ s.w.ent.cards k, card ∈ t.w.ent.cards k) {rs : List (XrceRequest × Bool)}
    (requests : t.requests = rs ++ s.requests)
    (made : ∀ id p ts, (.create id p ts, true) ∈ rs → ∃ k, ∃ card ∈ t.w.ent.cards k, card.id = id ∧
      (k = .participant → ∃ name namespace_, participantText cfg name namespace_ ≠ none)) :
    Backed cfg t := by
  intro id mem
  rw [requests] at mem
  rcases mem_agentObjects_append mem with ⟨p, ts, created⟩ | ⟨old, -⟩
  · exact made id p ts created
  · obtain ⟨k, card, held, e, text⟩ := h id old
    exact ⟨k, card, cards k card held, e, text⟩

/-- Entities have gone, and the agent has confirmed that their objects have. -/
theorem Backed.removed (h : Backed cfg s) (k : Removed s t)
    (deleted : ∀ id b, (.deleteEntity id, b) ∈ t.requests → b = true) : Backed cfg t := by
  obtain ⟨rs, requests, quiet, gone⟩ := k.requests
  intro id mem
  rw [requests] at mem
  rcases mem_agentObjects_append mem with ⟨p, ts, created⟩ | ⟨old, kept⟩
  · obtain ⟨id', cancel | delete⟩ := quiet _ created
    · cases cancel
    · cases delete
  · obtain ⟨j, card, held, rfl, text⟩ := h id old
    refine ⟨j, card, ?_, rfl, text⟩
    by_contra left
    obtain ⟨b, hb⟩ := gone j card held left
    obtain rfl := deleted card.id b (requests ▸ List.mem_append_left _ hb)
    exact kept hb

theorem Created.keeps {objects ks : List ObjectKind} {c : Nat} {parent held : Option Nat}
    {ts : Slots Topic} {rs : List (XrceRequest × Bool)}
    (h : Created objects c parent held s ks ts rs t) (topics : s.w.ent.topic.Extends ts) (k : ObjectKind) :
    ∀ card ∈ s.w.ent.cards k, card ∈ t.w.ent.cards k := by
  intro card mem
  by_cases hk : k = .topic
  · subst hk
    have shown : t.w.ent.cards .topic = ts.cards (·.ownerNode) (·.topicId) := by
      rw [Entities.cards, h.topic]
    rw [shown]
    exact topics.cards mem
  · rw [h.cards k hk]
    split
    · split
      · exact List.mem_cons_of_mem _ mem
      · exact mem
    · exact mem

/-- The card of an object just created. -/
theorem Created.made {objects ks : List ObjectKind} {c i : Nat} {parent : Option Nat} {ts : Slots Topic}
    {rs : List (XrceRequest × Bool)} (h : Created objects c parent (some i) s ks ts rs t)
    {k : ObjectKind} (own : k ∈ objects) (ne : k ≠ .topic) :
    ∃ card ∈ t.w.ent.cards k, card.id = s.w.ent.nextId c k := by
  refine ⟨⟨i, parent, s.w.ent.nextId c k⟩, ?_, rfl⟩
  rw [h.cards k ne]
  dsimp only
  rw [if_pos own]
  exact List.mem_cons_self

/-! ### Publishers and subscriptions -/

theorem topicRequest_eq {id participant : UxrObjectId} {name : CStr}
    {members : MessageTypeSupportCallbacks} {request : XrceRequest}
    (h : topicRequest cfg id participant name members = some request) :
    ∃ texts, request = .create id (some participant) texts := by
  unfold topicRequest at h
  split at h
  · dsimp only at h
    split at h
    · exact ⟨_, (Option.some.inj h).symm⟩
    · cases h
  · dsimp only at h
    split at h
    · exact ⟨_, (Option.some.inj h).symm⟩
    · cases h

/-- The agent confirms the topic, and then the endpoint is not completed. -/
def TwoObjects.Strands [Element β] (two : TwoObjects β) (cfg : Config) (e : Entities)
    (agent : List Answer) (n : Nat) (members : MessageTypeSupportCallbacks) (name : CStr) : Prop :=
  n ∈ e.node.elements ∧ name ≠ [] ∧ name.length + 1 ≤ cfg.topicNameMaxLength ∧
    (two.ep.kind.slots e).get.1 ≠ none ∧ e.topic.get.1 ≠ none ∧
    topicRequest cfg (e.nextId (e.contextOf n) .topic) (e.node.custom n).participantId name
      members ≠ none ∧
    confirms agent = true ∧
    ¬ (confirms (agent.drop 1) = true ∧ endpointTexts cfg two.profile name ≠ none ∧
      confirms (agent.drop 2) = true)

section Endpoints

variable {n : Nat} {name : CStr} {members : MessageTypeSupportCallbacks} {topic : Option Nat}
  {ks : List ObjectKind} {ts : Slots Topic} {rs : List (XrceRequest × Bool)}

theorem TopicEnd.confirmed (h : TopicEnd cfg n name members s topic ks ts rs) {id : UxrObjectId}
    {p : Option UxrObjectId} {texts : List CStr} (mem : (.create id p texts, true) ∈ rs) :
    topic ≠ none ∧ id = s.w.ent.nextId (s.w.ent.contextOf n) .topic := by
  cases h with
  | full => cases mem
  | unfit => cases mem
  | refused x slot request text answer => simp at mem
  | made x slot request text answer =>
    obtain ⟨texts', rfl⟩ := topicRequest_eq text
    have e := List.mem_singleton.1 mem
    simp only [Prod.mk.injEq, XrceRequest.create.injEq] at e
    exact ⟨by simp, e.1.1⟩

theorem TopicEnd.strands [Element β] {two : TwoObjects β} {x i : Nat}
    (h : TopicEnd cfg n name members s (some x) ks ts rs)
    (reliable : s.Reliable (s.w.ent.contextOf n)) (hn : n ∈ s.w.ent.node.elements) (named : name ≠ [])
    {typeSupport : TypeSupport MessageTypeSupportCallbacks}
    (late : TwoObjects.GoesOn cfg name typeSupport members)
    (slot : (two.ep.kind.slots s.w.ent).get.1 = some i)
    (fails : ¬ (confirms (s.agent.drop 1) = true ∧ endpointTexts cfg two.profile name ≠ none ∧
      confirms (s.agent.drop 2) = true)) : two.Strands cfg s.w.ent s.agent n members name := by
  have fits := late.fits
  cases h with
  | made x slot' request text answer =>
    exact ⟨hn, named, by omega, by simp [slot], by simp [slot'], by simp [text], answer reliable, fails⟩

/-- How a create function of publishers or subscriptions that strands nothing leaves the agent. -/
theorem TwoObjects.Ends.backed [Element β] {two : TwoObjects β} {node : Option Nat}
    {typeSupport : Option (TypeSupport MessageTypeSupportCallbacks)} {topicName : Option CStr}
    (h : two.Ends cfg node typeSupport topicName s t) (ledger : Ledger cfg s.w.ent)
    (reliable : ∀ n ∈ s.w.ent.node.elements, s.Reliable (s.w.ent.contextOf n))
    (safe : ∀ n ∈ node, n ∈ s.w.ent.node.elements → ∀ ts ∈ typeSupport, ∀ name ∈ topicName, name ≠ [] →
      LeavesEarly cfg name ts → two.ep.StaleSafe s.w.ent)
    (whole : ∀ n ∈ node, ∀ members, typeSupport = some (.callbacks members) → ∀ name ∈ topicName,
      ¬ two.Strands cfg s.w.ent s.agent n members name)
    (backed : Backed cfg s) : Backed cfg t := by
  rcases h with rfl | ⟨n, i, ts, name, rfl, hn, rfl, rfl, named, slot, held, ks, topics, rs, outcome,
    created⟩
  · exact backed
  have kinds := two.kinds
  have ends := two.ends
  simp only [List.nodup_cons, List.mem_cons, List.not_mem_nil, or_false, not_or] at kinds ends
  obtain ⟨more, kept⟩ := outcome.extends ledger slot (safe n rfl hn ts rfl name rfl named)
  refine backed.more (created.keeps more) created.requests fun id p texts mem => ?_
  have stranded : ∀ {members x ks ts' rs}, TopicEnd cfg n name members s (some x) ks ts' rs →
      GoesOn cfg name ts members → ¬ (confirms (s.agent.drop 1) = true ∧
        endpointTexts cfg two.profile name ≠ none ∧ confirms (s.agent.drop 2) = true) → False :=
    fun topic late fails => whole n rfl _ (congrArg some late.callbacks) name rfl
      (topic.strands (reliable n hn) hn named late slot fails)
  cases outcome with
  | early => cases mem
  | topicless _ topic => exact absurd rfl (topic.confirmed mem).1
  | alone late topic answer =>
    refine (stranded topic late fun yes => ?_).elim
    rw [answer (reliable n hn)] at yes
    exact Bool.false_ne_true yes.1
  | unnamed late topic text => exact (stranded topic late fun yes => yes.2.1 text).elim
  | refused late topic texts' text answer =>
    refine (stranded topic late fun yes => ?_).elim
    rw [answer (reliable n hn)] at yes
    exact Bool.false_ne_true yes.2.2
  | made late made texts' =>
    rcases List.mem_cons.1 mem with e | mem
    · obtain ⟨card, held, e'⟩ := created.made (k := two.inner) (by simp) fun e => kinds.1.2 e.symm
      simp only [innerRequest, Prod.mk.injEq, XrceRequest.create.injEq] at e
      exact ⟨_, card, held, e'.trans e.1.1.symm, fun e => absurd e.symm ends.2⟩
    rcases List.mem_cons.1 mem with e | mem
    · obtain ⟨card, held, e'⟩ := created.made (k := two.outer) (by simp) fun e => kinds.1.1 e.symm
      simp only [outerRequest, Prod.mk.injEq, XrceRequest.create.injEq] at e
      exact ⟨_, card, held, e'.trans e.1.1.symm, fun e => absurd e.symm ends.1⟩
    · obtain ⟨x, hx, e⟩ := kept (by simp)
      obtain ⟨-, rfl⟩ := made.confirmed mem
      refine ⟨.topic, ⟨x, (topics.custom x).ownerNode, (topics.custom x).topicId⟩, ?_, e, by simp⟩
      have shown : t.w.ent.cards .topic = topics.cards (·.ownerNode) (·.topicId) := by
        rw [Entities.cards, created.topic]
      rw [shown]
      exact Slots.mem_cards.2 ⟨x, hx, rfl⟩

end Endpoints

/-! ### Calls -/

theorem OneObject.Ends.backed [Element β] {one : OneObject β} {node : Option Nat}
    (h : one.Ends node s t) (kind : one.object ≠ .topic ∧ one.object ≠ .participant)
    (backed : Backed cfg s) : Backed cfg t := by
  rcases h with rfl | ⟨n, i, -, hn, -, held, texts, ks, rs, end_, created⟩
  · exact backed
  refine backed.more (created.keeps fun j hj => ⟨hj, rfl⟩) created.requests fun id p texts' mem => ?_
  cases end_ with
  | early => cases mem
  | untold => cases mem
  | refused => simp at mem
  | made =>
    obtain ⟨card, held, e'⟩ := created.made (k := one.object) List.mem_cons_self kind.1
    have e := List.mem_singleton.1 mem
    simp only [Prod.mk.injEq, XrceRequest.create.injEq] at e
    exact ⟨_, card, held, e'.trans e.1.1.symm, fun e => absurd e kind.2⟩

theorem NodeEnd.backed {c i : Nat} {name namespace_ : CStr} (h : NodeEnd cfg c name namespace_ i s t)
    (backed : Backed cfg s) : Backed cfg t := by
  obtain ⟨held, ks, rs, end_, created, -⟩ := h
  refine backed.more (created.keeps fun j hj => ⟨hj, rfl⟩) created.requests fun id p texts mem => ?_
  cases end_ with
  | early => cases mem
  | untold => cases mem
  | refused => simp at mem
  | made text =>
    obtain ⟨card, held, e'⟩ := created.made (k := .participant) List.mem_cons_self (by simp)
    have e := List.mem_singleton.1 mem
    simp only [Prod.mk.injEq, XrceRequest.create.injEq] at e
    refine ⟨_, card, held, e'.trans e.1.1.symm, fun _ => ⟨name, namespace_, fun none => ?_⟩⟩
    rw [none] at text
    cases text

theorem Backed.quiet (h : Backed cfg s) (k : Quiet s t) : Backed cfg t := by
  have none : t.requests = [] ++ s.requests := k.requests
  refine h.more (fun j card mem => ?_) none (by simp)
  cases j <;> simpa only [Entities.cards, k.node, k.publisher, k.subscription, k.service, k.client,
    k.topic] using mem

end Backed

/-- The agent confirms the topic of the endpoint the call is to create, and then the call fails. -/
def Call.Strands (cfg : Config) (e : Entities) (agent : List Answer) : Call → Prop
  | .createPublisher (some n) (some (.callbacks members)) (some name) (some _) =>
    TwoObjects.publisher.Strands cfg e agent n members name
  | .createSubscription (some n) (some (.callbacks members)) (some name) (some _) =>
    TwoObjects.subscription.Strands cfg e agent n members name
  | _ => False

/-- A call inside the only context that strands nothing. -/
theorem perform_backed {s : State} (wf : Wf cfg s) (ledger : Ledger cfg s.w.ent) {c : Nat}
    (only : s.w.ent.session.elements = [c]) (reliable : s.Reliable c) {call : Call}
    (inside : call.Inside = true) (defined : call.defined s.w.ent = true)
    (safe : call.StaleSafe cfg s.w.ent) (whole : ¬ call.Strands cfg s.w.ent s.agent)
    (deleted : ∀ id b, (.deleteEntity id, b) ∈ (perform cfg call s).2.requests → b = true)
    (backed : Backed cfg s) : Backed cfg (perform cfg call s).2 := by
  have streams : ∀ n ∈ s.w.ent.node.elements, s.Reliable (s.w.ent.contextOf n) := fun n hn =>
    (wf.contextOf_only only n hn).symm ▸ reliable
  have quiet : call.Quiet = true → Backed cfg (perform cfg call s).2 := fun h =>
    backed.quiet (perform_quiet h s)
  have nothing : ∀ {t : State}, t = s → Backed cfg t := fun same => same ▸ backed
  cases call with
  | init env => simp [Call.Inside] at inside
  | shutdown impl => simp [Call.Inside] at inside
  | createNode context name namespace_ =>
    rcases rmwCreateNode_ends wf context name namespace_ with same | ⟨i, n, ns, -, -, -, end_⟩
    · exact nothing same
    · exact end_.backed backed
  | destroyNode node =>
    rcases rmwDestroyNode_cases wf node with ⟨n, rfl, hn⟩ | same
    · exact backed.removed (rmwDestroyNode_removed wf ledger hn) deleted
    · exact nothing (congrArg Prod.snd same)
  | createPublisher node typeSupport topicName qosPolicies =>
    cases qosPolicies with
    | none =>
      refine nothing ?_
      cases node <;> cases typeSupport <;> cases topicName <;> rfl
    | some qos =>
      refine (rmwCreatePublisher_ends wf node typeSupport topicName (some qos)).backed ledger streams
        ?_ ?_ backed
      · exact fun n hn inUse ts hts name hname named leaves =>
          safe ⟨n, hn, inUse, ts, hts, name, hname, named, by simp, leaves⟩
      · rintro n rfl members rfl name rfl
        exact whole
  | destroyPublisher node publisher =>
    rcases rmwDestroyPublisher_cases wf node publisher with ⟨n, i, rfl, rfl, hn, hi⟩ | same
    · exact backed.removed (rmwDestroyPublisher_removed wf ledger hn hi) deleted
    · exact nothing (congrArg Prod.snd same)
  | createSubscription node typeSupport topicName qosPolicies =>
    cases qosPolicies with
    | none =>
      refine nothing ?_
      cases node <;> cases typeSupport <;> cases topicName <;> rfl
    | some qos =>
      refine (rmwCreateSubscription_ends wf node typeSupport topicName (some qos)).backed ledger
        streams ?_ ?_ backed
      · exact fun n hn inUse ts hts name hname named leaves =>
          safe ⟨n, hn, inUse, ts, hts, name, hname, named, by simp, leaves⟩
      · rintro n rfl members rfl name rfl
        exact whole
  | destroySubscription node subscription =>
    rcases rmwDestroySubscription_cases wf node subscription with ⟨n, i, rfl, rfl, hn, hi⟩ | same
    · exact backed.removed (rmwDestroySubscription_removed wf ledger hn hi) deleted
    · exact nothing (congrArg Prod.snd same)
  | createService node typeSupport serviceName qosPolicies requestId =>
    exact (rmwCreateService_ends wf node typeSupport serviceName qosPolicies requestId).backed
      (by decide) backed
  | destroyService node service =>
    rcases rmwDestroyService_cases wf node service with ⟨n, i, rfl, rfl, hn, hi⟩ | same
    · exact backed.removed (rmwDestroyService_removed wf hn hi) deleted
    · exact nothing (congrArg Prod.snd same)
  | createClient node typeSupport serviceName qosPolicies requestId =>
    exact (rmwCreateClient_ends wf node typeSupport serviceName qosPolicies requestId).backed
      (by decide) backed
  | destroyClient node client =>
    rcases rmwDestroyClient_cases wf node client with ⟨n, i, rfl, rfl, hn, hi⟩ | same
    · exact backed.removed (rmwDestroyClient_removed wf hn hi) deleted
    · exact nothing (congrArg Prod.snd same)
  | _ => exact quiet rfl

end RmwMicroxrcedds
