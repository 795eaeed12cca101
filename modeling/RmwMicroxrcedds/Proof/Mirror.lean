import RmwMicroxrcedds.Proof.Backing
import RmwMicroxrcedds.Base.Registry

/-!
# The agent as a registry

The library names the objects it has the agent create, each kind with a counter of its own. While no
counter has come round, every request makes sense to the agent: a new object has a new id and hangs
under an object that is there, and what is deleted or told to stop sending data is there.
-/

namespace RmwMicroxrcedds
set_option autoImplicit false

open Registry (Legal Below)

variable {cfg : Config} {c : Nat} {β : Type}

/-! ## The requests -/

/-- What a request asks of a registry. -/
def XrceRequest.ask : XrceRequest → Registry.Request UxrObjectId
  | .create id parent _ => .create [id] parent.toList
  | .createGraph ids => .create ids []
  | .cancelData id => .mention id
  | .deleteEntity id => .delete id

/-- The requests of a run and their answers, the latest first. -/
def State.dialogue (s : State) : Registry.Log UxrObjectId := s.requests.map fun r => (r.1.ask, r.2)

/-- The objects the agent has confirmed, those of the graph included. -/
def State.objects (s : State) : List UxrObjectId := Registry.objects s.dialogue

/-- The graph entities that a request has created. -/
def XrceRequest.graphIds : XrceRequest × Bool → List UxrObjectId
  | (.createGraph ids, true) => ids
  | _ => []

/-- The graph entities the agent has confirmed. -/
def State.graphObjects (s : State) : List UxrObjectId := s.requests.flatMap XrceRequest.graphIds

theorem State.dialogue_append {s t : State} {rs : List (XrceRequest × Bool)}
    (requests : t.requests = rs ++ s.requests) :
    t.dialogue = rs.map (fun r => (r.1.ask, r.2)) ++ s.dialogue := by
  rw [dialogue, requests, List.map_append, dialogue]

/-! ## The invariant -/

/-- What the library believes of the agent, with the context `c` alone. -/
structure Mirrored (c : Nat) (s : State) : Prop where
  legal : Legal s.dialogue
  below : Below UxrObjectId.type UxrObjectId.id (s.w.ent.session.custom c).counter s.objects
  known : ∀ k, ∀ card ∈ s.w.ent.cards k, card.id ∈ s.objects
  typed : ∀ k, ∀ card ∈ s.w.ent.cards k, card.id.type = k
  unique : ∀ k, ∀ a ∈ s.w.ent.cards k, ∀ b ∈ s.w.ent.cards k, a.id = b.id → a = b
  graph : ∀ id ∈ s.graphObjects, id ∈ s.objects ∧ ∀ k, ∀ card ∈ s.w.ent.cards k, card.id ≠ id

/-- The counters a creation draws from have not come round, and will not now. -/
def Room (c : Nat) (kinds : List ObjectKind) (s : State) : Prop :=
  ∀ k ∈ kinds, (s.w.ent.session.custom c).counter k + 1 < 65536

section Steps

variable {s t : State}

/-! ### Creations -/

/-- What a creation does to the objects, the cards and the counters. -/
structure Grows (c : Nat) (s t : State) : Prop where
  asked : ∃ ks rs, Registry.Asked (s.w.ent.nextId c) s.dialogue ks (rs.map fun r => (r.1.ask, r.2)) ∧
    t.requests = rs ++ s.requests ∧ (∀ ids b, (.createGraph ids, b) ∉ rs) ∧
    (∀ k ∈ ks, (s.w.ent.session.custom c).counter k < (t.w.ent.session.custom c).counter k) ∧
    ∀ k, t.w.ent.cards k = s.w.ent.cards k ∨ ∃ card, t.w.ent.cards k = card :: s.w.ent.cards k ∧
      card.id = s.w.ent.nextId c k ∧
      ∃ uses, (Registry.Request.create [card.id] uses, true) ∈ rs.map fun r => (r.1.ask, r.2)
  up : ∀ k, (s.w.ent.session.custom c).counter k ≤ (t.w.ent.session.custom c).counter k

theorem Mirrored.grows (h : Mirrored c s) (g : Grows c s t) : Mirrored c t := by
  obtain ⟨ks, rs, asked, requests, plain, drawn, cards⟩ := g.asked
  have log := State.dialogue_append requests
  have objects : t.objects = Registry.objects (rs.map (fun r => (r.1.ask, r.2)) ++ s.dialogue) := by
    rw [State.objects, log]
  have kept : ∀ {id}, id ∈ s.objects → id ∈ t.objects := fun mem => by
    rw [objects]
    exact asked.objects_subset mem
  have next : ∀ k, s.w.ent.nextId c k ∉ s.objects := fun k mem => by
    have lower : (s.w.ent.session.custom c).counter k < (s.w.ent.session.custom c).counter k :=
      h.below _ mem
    omega
  constructor
  · rw [log]
    exact asked.legal (fun _ => rfl) (fun _ => rfl) h.legal h.below
  · rw [objects]
    exact asked.stays_below (fun _ => rfl) (fun _ => rfl) h.below g.up drawn
  · intro k card mem
    rcases cards k with same | ⟨new, more, -, uses, confirmed⟩
    · exact kept (h.known k card (same ▸ mem))
    · rw [more] at mem
      rcases List.mem_cons.1 mem with rfl | old
      · rw [objects]
        exact asked.confirmed confirmed _ List.mem_cons_self
      · exact kept (h.known k card old)
  · intro k card mem
    rcases cards k with same | ⟨new, more, id, -⟩
    · exact h.typed k card (same ▸ mem)
    · rw [more] at mem
      rcases List.mem_cons.1 mem with rfl | old
      · rw [id]
        rfl
      · exact h.typed k card old
  · intro k a ha b hb same
    rcases cards k with all | ⟨new, more, id, -⟩
    · rw [all] at ha hb
      exact h.unique k a ha b hb same
    · rw [more] at ha hb
      rcases List.mem_cons.1 ha with rfl | oldA
      · rcases List.mem_cons.1 hb with rfl | oldB
        · rfl
        · exact absurd (id ▸ same ▸ h.known k b oldB) (next k)
      · rcases List.mem_cons.1 hb with rfl | oldB
        · exact absurd (id ▸ same.symm ▸ h.known k a oldA) (next k)
        · exact h.unique k a oldA b oldB same
  · intro id mem
    have old : id ∈ s.graphObjects := by
      rw [State.graphObjects, requests, List.flatMap_append, List.mem_append] at mem
      refine mem.resolve_left fun new => ?_
      obtain ⟨⟨request, b⟩, made, here⟩ := List.mem_flatMap.1 new
      cases request with
      | createGraph ids => exact plain ids b made
      | _ => simp [XrceRequest.graphIds] at here
    obtain ⟨here, apart⟩ := h.graph id old
    refine ⟨kept here, fun k card mem => ?_⟩
    rcases cards k with same | ⟨new, more, next', -⟩
    · exact apart k card (same ▸ mem)
    · rw [more] at mem
      rcases List.mem_cons.1 mem with rfl | old
      · rw [next']
        rintro rfl
        exact next k here
      · exact apart k card old

/-! ### Destructions -/

/-- Requests, the latest first, that say nothing about what they have deleted. -/
def DeletesLast (qs : List XrceRequest) : Prop :=
  qs.Pairwise fun later earlier => ∀ id, earlier = .deleteEntity id →
    later ≠ .cancelData id ∧ later ≠ .deleteEntity id

theorem DeletesLast.after_cancels {qs cancels : List XrceRequest} (h : DeletesLast qs)
    (quiet : ∀ q ∈ cancels, ∃ id, q = .cancelData id) : DeletesLast (qs ++ cancels) := by
  have silent : ∀ q ∈ cancels, ∀ id, q ≠ .deleteEntity id := by
    intro q mem id deleted
    obtain ⟨id', rfl⟩ := quiet q mem
    cases deleted
  apply List.pairwise_append.2
  refine ⟨h, ?_, fun later _ earlier mem id deleted => absurd deleted (silent earlier mem id)⟩
  apply List.pairwise_iff_forall_sublist.2
  intro later earlier sub id deleted
  exact absurd deleted (silent earlier (sub.subset (by simp)) id)

/-- What a destruction does: it makes requests about the objects of cards, deletes objects of cards that are
gone, and asks nothing more about what it has deleted. -/
structure Shrinks (c : Nat) (s t : State) : Prop where
  counter : (t.w.ent.session.custom c).counter = (s.w.ent.session.custom c).counter
  cards : ∀ k, (t.w.ent.cards k).Sublist (s.w.ent.cards k)
  asked : ∃ rs, t.requests = rs ++ s.requests ∧
    (∀ r ∈ rs, ∃ k, ∃ card ∈ s.w.ent.cards k,
      r.1 = .cancelData card.id ∨ r.1 = .deleteEntity card.id ∧ card ∉ t.w.ent.cards k) ∧
    DeletesLast (rs.map Prod.fst)

theorem XrceRequest.ask_mention {r : XrceRequest} {id : UxrObjectId} :
    r.ask = .mention id ↔ r = .cancelData id := by cases r <;> simp [ask]

theorem XrceRequest.ask_delete {r : XrceRequest} {id : UxrObjectId} :
    r.ask = .delete id ↔ r = .deleteEntity id := by cases r <;> simp [ask]

theorem Mirrored.shrinks (h : Mirrored c s) (d : Shrinks c s t) : Mirrored c t := by
  obtain ⟨rs, requests, about, order⟩ := d.asked
  have log := State.dialogue_append requests
  have clears : Registry.Clears (rs.map fun r => (r.1.ask, r.2)) := by
    intro q mem
    obtain ⟨r, hr, rfl⟩ := List.mem_map.1 mem
    obtain ⟨k, card, -, same | ⟨same, -⟩⟩ := about r hr
    · exact ⟨card.id, .inl (XrceRequest.ask_mention.2 same)⟩
    · exact ⟨card.id, .inr (XrceRequest.ask_delete.2 same)⟩
  have kept : ∀ {id}, id ∈ s.objects →
      (∀ k, ∀ card ∈ s.w.ent.cards k, card ∉ t.w.ent.cards k → card.id ≠ id) → id ∈ t.objects := by
    intro id here apart
    rw [State.objects, log]
    refine Registry.mem_objects_clears clears here fun b mem => ?_
    obtain ⟨r, hr, e⟩ := List.mem_map.1 mem
    have deleted := XrceRequest.ask_delete.1 (congrArg Prod.fst e)
    obtain ⟨k, card, held, same | ⟨same, gone⟩⟩ := about r hr
    · rw [deleted] at same
      cases same
    · rw [deleted] at same
      exact apart k card held gone (XrceRequest.deleteEntity.inj same).symm
  constructor
  · rw [log]
    have order : rs.Pairwise _ := List.pairwise_map.1 order
    refine h.legal.clears (fun q mem => ?_) ?_
    · obtain ⟨r, hr, rfl⟩ := List.mem_map.1 mem
      obtain ⟨k, card, held, same | ⟨same, -⟩⟩ := about r hr
      · exact ⟨card.id, h.known k card held, .inl (XrceRequest.ask_mention.2 same)⟩
      · exact ⟨card.id, h.known k card held, .inr (XrceRequest.ask_delete.2 same)⟩
    · rw [List.pairwise_map]
      refine order.imp fun {later earlier} apart id deleted => ?_
      obtain ⟨mentions, deletes⟩ := apart id (XrceRequest.ask_delete.1 deleted)
      exact ⟨fun e => mentions (XrceRequest.ask_mention.1 e), fun e => deletes (XrceRequest.ask_delete.1 e)⟩
  · intro id here
    rw [d.counter]
    rw [State.objects, log] at here
    exact h.below id (Registry.objects_clears_subset clears here)
  · intro k card mem
    have held := (d.cards k).subset mem
    refine kept (h.known k card held) fun k' other held' gone same => ?_
    obtain rfl : k' = k := by
      rw [← h.typed k' other held', ← h.typed k card held, same]
    exact gone (h.unique k' other held' card held same ▸ mem)
  · exact fun k card mem => h.typed k card ((d.cards k).subset mem)
  · exact fun k a ha b hb => h.unique k a ((d.cards k).subset ha) b ((d.cards k).subset hb)
  · intro id mem
    have old : id ∈ s.graphObjects := by
      rw [State.graphObjects, requests, List.flatMap_append, List.mem_append] at mem
      refine mem.resolve_left fun new => ?_
      obtain ⟨⟨request, b⟩, made, here⟩ := List.mem_flatMap.1 new
      obtain ⟨k, card, -, same | ⟨same, -⟩⟩ := about _ made
      · obtain rfl : request = _ := same
        simp [XrceRequest.graphIds] at here
      · obtain rfl : request = _ := same
        simp [XrceRequest.graphIds] at here
    obtain ⟨here, apart⟩ := h.graph id old
    exact ⟨kept here fun k card held _ => apart k card held,
      fun k card mem => apart k card ((d.cards k).subset mem)⟩

end Steps

/-! ## How creations end -/

section Created

variable {s t : State} {objects ks ks' : List ObjectKind} {parent held : Option Nat} {ts : Slots Topic}
  {rs : List (XrceRequest × Bool)}

theorem Created.counter (h : Created objects c parent held s ks ts rs t) (nodup : ks.Nodup)
    (valid : .invalid ∉ ks) (room : Room c ks s) (k : ObjectKind) :
    (t.w.ent.session.custom c).counter k = (s.w.ent.session.custom c).counter k + if k ∈ ks then 1 else 0 := by
  rw [h.session, Slots.update_custom_self]
  split
  · rename_i mem
    have ne : k ≠ .invalid := by
      rintro rfl
      exact valid mem
    rw [Session.counter_drawn_of_mem _ ne nodup mem, Nat.mod_eq_of_lt (room k mem)]
  · rename_i fresh
    exact Session.counter_drawn_of_not_mem _ fresh

/-- The kinds drawn and the requests made, the latest first, name no object twice. -/
structure AsksNew (c : Nat) (s : State) (ks : List ObjectKind) (rs : List (XrceRequest × Bool)) : Prop where
  asked : ∃ ks', (∀ k ∈ ks', k ∈ ks) ∧
    Registry.Asked (s.w.ent.nextId c) s.dialogue ks' (rs.map fun r => (r.1.ask, r.2))
  plain : ∀ ids b, (.createGraph ids, b) ∉ rs

theorem AsksNew.nil : AsksNew c s ks [] := ⟨⟨[], by simp, .nil⟩, by simp⟩

theorem AsksNew.mono (h : AsksNew c s ks rs) (sub : ∀ k ∈ ks, k ∈ ks') : AsksNew c s ks' rs := by
  obtain ⟨drawn, less, asked⟩ := h.asked
  exact ⟨⟨drawn, fun k mem => sub k (less k mem), asked⟩, h.plain⟩

/-- One more object, under one that is there. -/
theorem AsksNew.create (h : AsksNew c s ks rs) {k : ObjectKind} (fresh : k ∉ ks) {p : Option UxrObjectId}
    (here : ∀ id ∈ p, id ∈ Registry.objects (rs.map (fun r => (r.1.ask, r.2)) ++ s.dialogue))
    (texts : List CStr) (b : Bool) :
    AsksNew c s (ks ++ [k]) ((.create (s.w.ent.nextId c k) p texts, b) :: rs) := by
  obtain ⟨drawn, less, asked⟩ := h.asked
  refine ⟨⟨k :: drawn, fun k' mem => ?_, ?_⟩, fun ids b' mem => ?_⟩
  · rcases List.mem_cons.1 mem with rfl | mem
    · simp
    · exact List.mem_append_left _ (less k' mem)
  · refine .create k p.toList b asked (fun mem => fresh (less k mem)) fun id mem => here id ?_
    exact Option.mem_toList.1 mem
  · rcases List.mem_cons.1 mem with e | mem
    · cases e
    · exact h.plain ids b' mem

theorem AsksNew.here (h : AsksNew c s ks rs) {p : UxrObjectId} (old : p ∈ s.objects) :
    p ∈ Registry.objects (rs.map (fun r => (r.1.ask, r.2)) ++ s.dialogue) := by
  obtain ⟨drawn, -, asked⟩ := h.asked
  exact asked.objects_subset old

theorem Created.grows (h : Created objects c parent held s ks ts rs t) (nodup : ks.Nodup)
    (valid : .invalid ∉ ks) (room : Room c ks s) (asks : AsksNew c s ks rs)
    (made : held ≠ none → ∀ k ∈ objects, ∃ p texts, (.create (s.w.ent.nextId c k) p texts, true) ∈ rs)
    (topics : ts.cards (·.ownerNode) (·.topicId) = s.w.ent.cards .topic ∨
      ∃ card, ts.cards (·.ownerNode) (·.topicId) = card :: s.w.ent.cards .topic ∧
        card.id = s.w.ent.nextId c .topic ∧
        ∃ p texts, (.create (s.w.ent.nextId c .topic) p texts, true) ∈ rs) : Grows c s t := by
  obtain ⟨drawn, less, asked⟩ := asks.asked
  have told : ∀ {k}, (∃ p texts, (XrceRequest.create (s.w.ent.nextId c k) p texts, true) ∈ rs) →
      ∃ uses, (Registry.Request.create [s.w.ent.nextId c k] uses, true) ∈ rs.map fun r => (r.1.ask, r.2) := by
    rintro k ⟨p, texts, mem⟩
    exact ⟨p.toList, List.mem_map.2 ⟨_, mem, rfl⟩⟩
  constructor
  · refine ⟨drawn, rs, asked, h.requests, asks.plain, fun k mem => ?_, fun k => ?_⟩
    · rw [h.counter nodup valid room, if_pos (less k mem)]
      omega
    · by_cases hk : k = .topic
      · subst hk
        have shown : t.w.ent.cards .topic = ts.cards (·.ownerNode) (·.topicId) := by
          rw [Entities.cards, h.topic]
        rw [shown]
        rcases topics with same | ⟨card, more, id, confirmed⟩
        · exact .inl same
        · exact .inr ⟨card, more, id, id ▸ told confirmed⟩
      · rw [h.cards k hk]
        cases held with
        | none => exact .inl rfl
        | some i =>
          dsimp only
          split
          · rename_i own
            exact .inr ⟨_, rfl, rfl, told (made (by simp) k own)⟩
          · exact .inl rfl
  · intro k
    rw [h.counter nodup valid room]
    omega

end Created

/-! ### Topics -/

theorem Slots.Extends.cards_eq {t u : Slots β} (h : t.Extends u) (elements : u.elements = t.elements)
    (parent : β → Option Nat) (id : β → UxrObjectId) : u.cards parent id = t.cards parent id :=
  Slots.cards_kept elements fun j hj => (h j hj).2

section Topics

variable {s : State} {n : Nat} {name : CStr} {members : MessageTypeSupportCallbacks} {ks : List ObjectKind}
  {ts : Slots Topic} {rs : List (XrceRequest × Bool)}

/-- The cards of the topics after `create_topic`. -/
theorem TopicEnd.cards (ledger : Ledger cfg s.w.ent) {topic : Option Nat}
    (h : TopicEnd cfg n name members s topic ks ts rs) :
    (topic = none → ts.cards (·.ownerNode) (·.topicId) = s.w.ent.cards .topic) ∧
      ∀ x ∈ topic, (ts.finiTopic x).cards (·.ownerNode) (·.topicId) = s.w.ent.cards .topic ∧
        ∃ card, ts.cards (·.ownerNode) (·.topicId) = card :: s.w.ent.cards .topic ∧
          card.id = s.w.ent.nextId (s.w.ent.contextOf n) .topic ∧
          ∃ p texts, (.create (s.w.ent.nextId (s.w.ent.contextOf n) .topic) p texts, true) ∈ rs := by
  have made : ∀ {x}, s.w.ent.topic.get.1 = some x →
      let u := s.w.ent.topic.get.2.update x
        (namedTopic n members (s.w.ent.nextId (s.w.ent.contextOf n) .topic))
      (u.finiTopic x).cards (·.ownerNode) (·.topicId) = s.w.ent.cards .topic := by
    intro x slot u
    have fresh := (ledger.topics.ok.get_some slot).2.1
    obtain ⟨taken, more⟩ := ledger.topics.extends_made slot (f := namedTopic n members
      (s.w.ent.nextId (s.w.ent.contextOf n) .topic)) (by simp [namedTopic])
    have released := (taken.release List.mem_cons_self).elements
    rw [List.erase_cons_head] at released
    exact (ledger.topics.extends_fini fresh taken more).cards_eq released _ _
  cases h with
  | full slot =>
    rw [ledger.topics.ok.get_none slot]
    exact ⟨fun _ => rfl, by simp⟩
  | unfit x slot => exact ⟨fun _ => made slot, by simp⟩
  | refused x slot => exact ⟨fun _ => made slot, by simp⟩
  | made x slot request text =>
    refine ⟨by simp, fun y hy => ?_⟩
    obtain rfl : x = y := Option.some.inj hy
    obtain ⟨-, fresh, -, elements⟩ := ledger.topics.ok.get_some slot
    obtain ⟨texts, rfl⟩ := topicRequest_eq text
    refine ⟨made slot, _, Slots.cards_made elements fun j hj => ?_, ?_, _, texts, List.mem_cons_self⟩
    · have ne : j ≠ x := by
        rintro rfl
        exact fresh hj
      rw [Slots.update_custom_of_ne _ _ ne, Slots.get_custom]
    · rw [Slots.update_custom_self]
      rfl

/-- What `create_topic` asks. -/
theorem TopicEnd.asks {topic : Option Nat} (h : TopicEnd cfg n name members s topic ks ts rs)
    (participant : (s.w.ent.node.custom n).participantId ∈ s.objects) :
    AsksNew (s.w.ent.contextOf n) s ks rs := by
  have here : ∀ id ∈ some (s.w.ent.node.custom n).participantId, id ∈ Registry.objects s.dialogue := by
    intro id mem
    obtain rfl := Option.some.inj mem
    exact participant
  cases h with
  | full => exact .nil
  | unfit => exact .nil
  | refused x slot request text =>
    obtain ⟨texts, rfl⟩ := topicRequest_eq text
    exact AsksNew.nil.create List.not_mem_nil here texts false
  | made x slot request text =>
    obtain ⟨texts, rfl⟩ := topicRequest_eq text
    exact AsksNew.nil.create List.not_mem_nil here texts true

end Topics

/-! ### Publishers and subscriptions -/

namespace TwoObjects

variable [Element β] {two : TwoObjects β} {s t : State} {n i : Nat} {name : CStr}
  {typeSupport : TypeSupport MessageTypeSupportCallbacks} {held : Option Nat} {ks : List ObjectKind}
  {ts : Slots Topic} {rs : List (XrceRequest × Bool)}

theorem outer_fresh (two : TwoObjects β) : two.outer ∉ [ObjectKind.topic] := by
  have kinds := two.kinds
  simp only [List.nodup_cons, List.mem_cons, List.not_mem_nil, or_false, not_or] at kinds
  simpa using fun e => kinds.1.1 e.symm

theorem inner_fresh (two : TwoObjects β) : two.inner ∉ [ObjectKind.topic, two.outer] := by
  have kinds := two.kinds
  simp only [List.nodup_cons, List.mem_cons, List.not_mem_nil, or_false, not_or] at kinds
  simpa using ⟨fun e => kinds.1.2 e.symm, fun e => kinds.2.1 e.symm⟩

/-- What the create function asks. -/
theorem Outcome.asks (h : two.Outcome cfg n i name typeSupport s held ks ts rs)
    (participant : (s.w.ent.node.custom n).participantId ∈ s.objects) :
    AsksNew (s.w.ent.contextOf n) s ks rs := by
  have outer : ∀ {rs}, AsksNew (s.w.ent.contextOf n) s [.topic] rs → ∀ b,
      AsksNew (s.w.ent.contextOf n) s [.topic, two.outer] ((two.outerRequest s.w.ent n, b) :: rs) :=
    fun asks b => asks.create two.outer_fresh (by simpa using asks.here participant) [] b
  have inner : ∀ {rs}, AsksNew (s.w.ent.contextOf n) s [.topic] rs → ∀ texts b,
      AsksNew (s.w.ent.contextOf n) s [.topic, two.outer, two.inner]
        ((two.innerRequest s.w.ent n texts, b) :: (two.outerRequest s.w.ent n, true) :: rs) := by
    intro rs asks texts b
    apply (outer asks true).create two.inner_fresh
    intro id mem
    obtain rfl := Option.some.inj mem
    exact Registry.mem_objects_create.2 (.inl ⟨rfl, List.mem_cons_self⟩)
  cases h with
  | early => exact .nil
  | topicless _ topic => exact topic.asks participant
  | alone _ topic => exact outer (topic.asks participant) false
  | unnamed _ topic => exact (outer (topic.asks participant) true).mono (by simp)
  | refused _ topic texts => exact inner (topic.asks participant) texts false
  | made _ topic texts => exact inner (topic.asks participant) texts true

/-- The cards of the topics after the create function. -/
theorem Outcome.topics (ledger : Ledger cfg s.w.ent) (slot : (two.ep.kind.slots s.w.ent).get.1 = some i)
    (safe : LeavesEarly cfg name typeSupport → two.ep.StaleSafe s.w.ent)
    (h : two.Outcome cfg n i name typeSupport s held ks ts rs) :
    ts.cards (·.ownerNode) (·.topicId) = s.w.ent.cards .topic ∨
      ∃ card, ts.cards (·.ownerNode) (·.topicId) = card :: s.w.ent.cards .topic ∧
        card.id = s.w.ent.nextId (s.w.ent.contextOf n) .topic ∧
        ∃ p texts, (.create (s.w.ent.nextId (s.w.ent.contextOf n) .topic) p texts, true) ∈ rs := by
  cases h with
  | early leaves =>
    left
    cases stale : two.ep.topicOf s.w.ent i with
    | none => rfl
    | some x =>
      obtain ⟨free, head⟩ := safe leaves i slot x stale
      have lt := ledger.bound x ((two.ep.mentions_iff _ x).2 (.inl ⟨i, stale⟩))
      have elements := (ledger.topics.release_free lt free head).elements
      exact (ledger.topics.extends_free lt free head).cards_eq elements _ _
  | topicless _ topic => exact .inl ((topic.cards ledger).1 rfl)
  | alone _ topic => exact .inl ((topic.cards ledger).2 _ rfl).1
  | unnamed _ topic => exact .inl ((topic.cards ledger).2 _ rfl).1
  | refused _ topic => exact .inl ((topic.cards ledger).2 _ rfl).1
  | made _ topic texts =>
    obtain ⟨card, more, id, p, texts', mem⟩ := ((topic.cards ledger).2 _ rfl).2
    exact .inr ⟨card, more, id, p, texts', List.mem_cons_of_mem _ (List.mem_cons_of_mem _ mem)⟩

theorem Outcome.made_requests (h : two.Outcome cfg n i name typeSupport s held ks ts rs) (here : held ≠ none) :
    ∀ k ∈ [two.outer, two.inner],
      ∃ p texts, (.create (s.w.ent.nextId (s.w.ent.contextOf n) k) p texts, true) ∈ rs := by
  cases h with
  | made _ topic texts =>
    intro k own
    rcases List.mem_cons.1 own with rfl | own
    · exact ⟨_, _, List.mem_cons_of_mem _ List.mem_cons_self⟩
    · obtain rfl := List.mem_singleton.1 own
      exact ⟨_, _, List.mem_cons_self⟩
  | _ => exact absurd rfl here

theorem Outcome.drawn (h : two.Outcome cfg n i name typeSupport s held ks ts rs) :
    ks.Sublist [.topic, two.outer, two.inner] := by
  cases h with
  | early => simp
  | topicless _ topic =>
    cases topic with
    | full => simp
    | _ => simp
  | alone => simp
  | _ => exact .refl _

end TwoObjects

end RmwMicroxrcedds
