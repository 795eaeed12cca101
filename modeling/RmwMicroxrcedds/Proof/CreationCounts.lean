import RmwMicroxrcedds.Proof.Issues
import RmwMicroxrcedds.Proof.Shutdowns

/-!
# Ids and the number of creations

In every context the objects of a kind have ids below the counter, each its own, as long as fewer of them
have been created there than the counter has values; the graph draws from other counters than publishers
and clients do. What happens in one context does not touch the counters of the others.
-/

namespace RmwMicroxrcedds
set_option autoImplicit false

variable {cfg : Config} {k : ObjectKind} {count : Nat → Nat} {s t : State}

/-! ## Objects and their contexts -/

/-- The slot `i` has an object of the kind in the context `c`, with this id. -/
def Entities.Issued (e : Entities) (k : ObjectKind) (c i id : Nat) : Prop :=
  ∃ card ∈ e.cards k, ∃ node ∈ e.cards .participant,
    card.slot = i ∧ card.parent = some node.slot ∧ node.parent = some c ∧ card.id.id = id

/-- The objects of the kind carry the kind and belong to nodes in use. -/
def Entities.Rooted (e : Entities) (k : ObjectKind) : Prop :=
  ∀ card ∈ e.cards k, card.id.type = k ∧ ∃ node ∈ e.cards .participant, card.parent = some node.slot

/-- What there is of a kind, given how many have been created in each context. -/
structure Counted (k : ObjectKind) (count : Nat → Nat) (s : State) : Prop where
  rooted : s.w.ent.Rooted k
  counter : ∀ c ∈ s.w.ent.session.elements, count c < 65536 →
    (s.w.ent.session.custom c).counter k ≤ count c
  below : ∀ c ∈ s.w.ent.session.elements, count c < 65536 → ∀ i id, s.w.ent.Issued k c i id →
    id < (s.w.ent.session.custom c).counter k
  unique : ∀ c ∈ s.w.ent.session.elements, count c < 65536 → ∀ i j id, s.w.ent.Issued k c i id →
    s.w.ent.Issued k c j id → i = j

/-- More may have been created. -/
theorem Counted.mono {count' : Nat → Nat} (h : Counted k count s) (more : ∀ c, count c ≤ count' c) :
    Counted k count' s where
  rooted := h.rooted
  counter c hc few := Nat.le_trans (h.counter c hc (Nat.lt_of_le_of_lt (more c) few)) (more c)
  below c hc few := h.below c hc (Nat.lt_of_le_of_lt (more c) few)
  unique c hc few := h.unique c hc (Nat.lt_of_le_of_lt (more c) few)

/-- Nothing of the kind has come, and nothing that is left has lost its node. -/
structure Subsides (k : ObjectKind) (s t : State) : Prop where
  session : ∀ c ∈ t.w.ent.session.elements, c ∈ s.w.ent.session.elements ∧
    (t.w.ent.session.custom c).counter k = (s.w.ent.session.custom c).counter k
  cards : ∀ card ∈ t.w.ent.cards k, card ∈ s.w.ent.cards k
  /-- a node that has come has a slot of its own -/
  nodes : ∀ node ∈ t.w.ent.cards .participant, node ∈ s.w.ent.cards .participant ∨
    ∀ old ∈ s.w.ent.cards .participant, old.slot ≠ node.slot
  owners : ∀ card ∈ t.w.ent.cards k, ∀ node ∈ s.w.ent.cards .participant,
    card.parent = some node.slot → node ∈ t.w.ent.cards .participant

theorem Subsides.issued (h : Subsides k s t) (rooted : s.w.ent.Rooted k) {c i id : Nat}
    (issued : t.w.ent.Issued k c i id) : s.w.ent.Issued k c i id := by
  obtain ⟨card, mem, node, here, slot, parent, context, rest⟩ := issued
  refine ⟨card, h.cards card mem, node, ?_, slot, parent, context, rest⟩
  rcases h.nodes node here with old | new
  · exact old
  · obtain ⟨-, node', there, parent'⟩ := rooted card (h.cards card mem)
    have same : node'.slot = node.slot := Option.some.inj (parent'.symm.trans parent)
    exact absurd same (new node' there)

theorem Counted.subsides (h : Counted k count s) (less : Subsides k s t) : Counted k count t := by
  constructor
  · intro card mem
    obtain ⟨type, node, here, parent⟩ := h.rooted card (less.cards card mem)
    exact ⟨type, node, less.owners card mem node here parent, parent⟩
  · intro c hc few
    obtain ⟨old, same⟩ := less.session c hc
    rw [same]
    exact h.counter c old few
  · intro c hc few i id issued
    obtain ⟨old, same⟩ := less.session c hc
    rw [same]
    exact h.below c old few i id (less.issued h.rooted issued)
  · intro c hc few i j id first second
    exact h.unique c (less.session c hc).1 few i j id (less.issued h.rooted first)
      (less.issued h.rooted second)

/-- The pools of sessions and nodes are as they were, and what is left of the kind was there. -/
theorem Subsides.of_pools (memory : t.w.ent.session.memory = s.w.ent.session.memory)
    (counter : ∀ c, (t.w.ent.session.custom c).counter k = (s.w.ent.session.custom c).counter k)
    (nodes : t.w.ent.cards .participant = s.w.ent.cards .participant)
    (cards : ∀ card ∈ t.w.ent.cards k, card ∈ s.w.ent.cards k) : Subsides k s t where
  session c hc := by
    rw [Slots.elements, memory] at hc
    exact ⟨hc, counter c⟩
  cards := cards
  nodes node mem := .inl (nodes ▸ mem)
  owners _ _ node mem _ := nodes ▸ mem

/-! ## Opening a context -/

/-- A context starts with none. -/
theorem Counted.opened {c : Nat} (h : Counted k count s) (wf : Wf cfg s) (plain : k.Plain = true)
    (got : Got cfg s c t) : Counted k (fun c' => if c' = c then 0 else count c') t := by
  have valid : k ≠ .topic := by
    rintro rfl
    cases plain
  have cards := got.cards k valid
  have nodes := got.cards .participant (by decide)
  have issued : ∀ c' i id, t.w.ent.Issued k c' i id → s.w.ent.Issued k c' i id := by
    intro c' i id here
    rw [Entities.Issued, cards, nodes] at here
    exact here
  have empty : ∀ i id, ¬ t.w.ent.Issued k c i id := by
    intro i id here
    obtain ⟨card, -, node, mem, -, -, context, -⟩ := issued c i id here
    obtain ⟨n, hn, rfl⟩ := Slots.mem_cards.1 mem
    obtain ⟨c', hc', same⟩ := wf.context n hn
    rw [same] at context
    exact got.fresh (Option.some.inj context ▸ hc')
  have old : ∀ c' ∈ t.w.ent.session.elements, c' ≠ c → c' ∈ s.w.ent.session.elements := by
    intro c' hc' ne
    rw [got.elements] at hc'
    exact (List.mem_cons.1 hc').resolve_left ne
  constructor
  · intro card mem
    rw [nodes]
    exact h.rooted card (cards ▸ mem)
  · intro c' hc' few
    by_cases e : c' = c
    · rw [e, got.counter k plain]
      exact Nat.zero_le _
    · rw [if_neg e] at few ⊢
      rw [got.others c' e]
      exact h.counter c' (old c' hc' e) few
  · intro c' hc' few i id here
    by_cases e : c' = c
    · exact absurd (e ▸ here) (empty i id)
    · rw [if_neg e] at few
      rw [got.others c' e]
      exact h.below c' (old c' hc' e) few i id (issued c' i id here)
  · intro c' hc' few i j id first second
    by_cases e : c' = c
    · exact absurd (e ▸ first) (empty i id)
    · rw [if_neg e] at few
      exact h.unique c' (old c' hc' e) few i j id (issued c' i id first) (issued c' j id second)

/-! ## Creations -/

/-- The card of a node in use. -/
theorem Entities.nodeCard {e : Entities} {n : Nat} (hn : n ∈ e.node.elements) :
    (⟨n, (e.node.custom n).context, (e.node.custom n).participantId⟩ : Card) ∈ e.cards .participant :=
  Slots.mem_cards.2 ⟨n, hn, rfl⟩

/-- The card of a node names its context. -/
theorem Entities.contextOf_card {e : Entities} {node : Card} {c : Nat} (mem : node ∈ e.cards .participant)
    (context : node.parent = some c) : e.contextOf node.slot = c := by
  obtain ⟨n, -, rfl⟩ := Slots.mem_cards.1 mem
  dsimp only at context
  rw [contextOf, context]
  rfl

section Created

variable {objects ks : List ObjectKind} {c n : Nat} {held : Option Nat} {ts : Slots Topic}
  {rs : List (XrceRequest × Bool)} {count' : Nat → Nat}
  (created : Created objects c (some n) held s ks ts rs t) (others : .participant ∉ objects)

include created

theorem Created.sessions : t.w.ent.session.memory = s.w.ent.session.memory := by
  rw [created.session]
  rfl

include others

/-- The creation of an entity of the node `n` leaves the nodes alone. -/
theorem Created.nodes : t.w.ent.cards .participant = s.w.ent.cards .participant := by
  rw [created.cards .participant (by decide)]
  cases held with
  | none => rfl
  | some i => exact if_neg others

/-- What there is afterwards. -/
theorem Created.issued (own : s.w.ent.contextOf n = c) (valid : k ≠ .topic) {c' i id : Nat}
    (issued : t.w.ent.Issued k c' i id) : s.w.ent.Issued k c' i id ∨
      c' = c ∧ held = some i ∧ id = (s.w.ent.session.custom c).counter k := by
  obtain ⟨card, mem, node, here, slot, parent, context, rest⟩ := issued
  rw [created.nodes others] at here
  have old : card ∈ s.w.ent.cards k → s.w.ent.Issued k c' i id ∨
      c' = c ∧ held = some i ∧ id = (s.w.ent.session.custom c).counter k :=
    fun mem => .inl ⟨card, mem, node, here, slot, parent, context, rest⟩
  rw [created.cards k valid] at mem
  cases held with
  | none => exact old mem
  | some x =>
    dsimp only at mem
    split at mem
    · rcases List.mem_cons.1 mem with rfl | mem
      · right
        have same : n = node.slot := Option.some.inj parent
        have named := Entities.contextOf_card here context
        rw [← same, own] at named
        exact ⟨named.symm, congrArg some slot, rest.symm⟩
      · exact old mem
    · exact old mem

theorem Created.rooted (hn : n ∈ s.w.ent.node.elements) (valid : k ≠ .topic) (rooted : s.w.ent.Rooted k) :
    t.w.ent.Rooted k := by
  intro card mem
  rw [created.nodes others]
  rw [created.cards k valid] at mem
  cases held with
  | none => exact rooted card mem
  | some i =>
    dsimp only at mem
    split at mem
    · rcases List.mem_cons.1 mem with rfl | mem
      · exact ⟨rfl, _, Entities.nodeCard hn, rfl⟩
      · exact rooted card mem
    · exact rooted card mem

/-- No id of the kind has been drawn. -/
theorem Created.subsides (valid : k ≠ .topic) (unused : k ∉ ks)
    (drawn : ∀ i, held = some i → k ∈ objects → k ∈ ks) : Subsides k s t := by
  apply Subsides.of_pools created.sessions
  · intro c'
    rw [created.session]
    by_cases e : c' = c
    · rw [e, Slots.update_custom_self, Session.counter_drawn_of_not_mem _ unused]
    · rw [Slots.update_custom_of_ne _ _ e]
  · exact created.nodes others
  · intro card mem
    rw [created.cards k valid] at mem
    cases held with
    | none => exact mem
    | some i =>
      dsimp only at mem
      rwa [if_neg fun own => unused (drawn i rfl own)] at mem

/-- One id of the kind has been drawn. -/
theorem Counted.drawn (h : Counted k count s) (hn : n ∈ s.w.ent.node.elements)
    (own : s.w.ent.contextOf n = c) (valid : k ≠ .topic ∧ k ≠ .invalid) (nodup : ks.Nodup) (draws : k ∈ ks)
    (more : ∀ c', count c' ≤ count' c') (counts : count c < count' c) : Counted k count' t := by
  have before := h.mono more
  have here : ∀ c' ∈ t.w.ent.session.elements, c' ∈ s.w.ent.session.elements := by
    intro c' hc'
    rw [Slots.elements, created.sessions] at hc'
    exact hc'
  have still : ∀ c', c' ≠ c → (t.w.ent.session.custom c').counter k =
      (s.w.ent.session.custom c').counter k := by
    intro c' ne
    rw [created.session, Slots.update_custom_of_ne _ _ ne]
  -- the counter does not come round
  have next : c ∈ t.w.ent.session.elements → count' c < 65536 →
      (t.w.ent.session.custom c).counter k = (s.w.ent.session.custom c).counter k + 1 ∧
        (s.w.ent.session.custom c).counter k ≤ count c := by
    intro hc few
    have bound := h.counter c (here c hc) (by omega)
    rw [created.session, Slots.update_custom_self, Session.counter_drawn_of_mem _ valid.2 nodup draws]
    omega
  constructor
  · exact created.rooted others hn valid.1 h.rooted
  · intro c' hc' few
    by_cases e : c' = c
    · subst e
      have := next hc' few
      omega
    · rw [still c' e]
      exact before.counter c' (here c' hc') few
  · intro c' hc' few i id issued
    rcases created.issued others own valid.1 issued with old | ⟨rfl, -, rfl⟩
    · have below := before.below c' (here c' hc') few i id old
      by_cases e : c' = c
      · subst e
        have := next hc' few
        omega
      · rw [still c' e]
        exact below
    · have := next hc' few
      omega
  · intro c' hc' few i j id first second
    have fresh : ∀ x, ¬ s.w.ent.Issued k c' x ((s.w.ent.session.custom c').counter k) := fun x issued =>
      Nat.lt_irrefl _ (before.below c' (here c' hc') few x _ issued)
    rcases created.issued others own valid.1 first with old | ⟨rfl, heldI, rfl⟩
    · rcases created.issued others own valid.1 second with old' | ⟨rfl, -, rfl⟩
      · exact before.unique c' (here c' hc') few i j id old old'
      · exact absurd old (fresh i)
    · rcases created.issued others own valid.1 second with old' | ⟨-, heldJ, -⟩
      · exact absurd old' (fresh j)
      · exact Option.some.inj (heldI.symm.trans heldJ)

/-- An entity of the node `n` is created: one more of a kind where an id of the kind is drawn. -/
theorem Counted.creation (h : Counted k count s) (plain : k.Plain = true) (hn : n ∈ s.w.ent.node.elements)
    (own : s.w.ent.contextOf n = c) (nodup : ks.Nodup)
    (drawn : ∀ i, held = some i → k ∈ objects → k ∈ ks)
    (more : ∀ c', count c' ≤ count' c') (counts : k ∈ ks → count c < count' c) :
    Counted k count' t := by
  have valid : k ≠ .topic ∧ k ≠ .invalid := by
    constructor <;>
    · rintro rfl
      cases plain
  by_cases draws : k ∈ ks
  · exact Counted.drawn created others h hn own valid nodup draws more (counts draws)
  · exact (h.mono more).subsides (created.subsides others valid.1 draws drawn)

end Created

theorem TopicEnd.kinds {n : Nat} {name : CStr} {members : MessageTypeSupportCallbacks} {topic : Option Nat}
    {ks : List ObjectKind} {ts : Slots Topic} {rs : List (XrceRequest × Bool)}
    (h : TopicEnd cfg n name members s topic ks ts rs) : ks = [] ∨ ks = [.topic] := by
  cases h with
  | full => exact .inl rfl
  | _ => exact .inr rfl

/-- The ids are drawn in their order, and all of them for an entity that is in use afterwards. -/
theorem TwoObjects.Outcome.kinds {β : Type} [Element β] {two : TwoObjects β} {n i : Nat} {name : CStr}
    {typeSupport : TypeSupport MessageTypeSupportCallbacks} {held : Option Nat} {ks : List ObjectKind}
    {ts : Slots Topic} {rs : List (XrceRequest × Bool)}
    (h : two.Outcome cfg n i name typeSupport s held ks ts rs) :
    ks <+: [.topic, two.outer, two.inner] ∧ (held ≠ none → ks = [.topic, two.outer, two.inner]) := by
  cases h with
  | early => exact ⟨List.nil_prefix, fun some => absurd rfl some⟩
  | topicless _ topic =>
    rcases topic.kinds with rfl | rfl
    · exact ⟨List.nil_prefix, fun some => absurd rfl some⟩
    · exact ⟨⟨[two.outer, two.inner], rfl⟩, fun some => absurd rfl some⟩
  | alone => exact ⟨⟨[two.inner], rfl⟩, fun some => absurd rfl some⟩
  | unnamed => exact ⟨List.prefix_refl _, fun _ => rfl⟩
  | refused => exact ⟨List.prefix_refl _, fun _ => rfl⟩
  | made => exact ⟨List.prefix_refl _, fun _ => rfl⟩

section Ends

variable {count' : Nat → Nat} (h : Counted k count s) (plain : k.Plain = true)
  (more : ∀ c, count c ≤ count' c)

include h plain more

theorem TwoObjects.Ends.counted {β : Type} [Element β] {two : TwoObjects β} {node : Option Nat}
    {typeSupport : Option (TypeSupport MessageTypeSupportCallbacks)} {topicName : Option CStr}
    (end_ : two.Ends cfg node typeSupport topicName s t)
    (counts : ∀ n, node = some n → k ∈ [.topic, two.outer, two.inner] →
      count (s.w.ent.contextOf n) < count' (s.w.ent.contextOf n)) : Counted k count' t := by
  rcases end_ with rfl | ⟨n, i, ts, name, hnode, hn, -, -, -, -, held, ks, topics, rs, outcome, created⟩
  · exact h.mono more
  · obtain ⟨start, all⟩ := outcome.kinds
    apply Counted.creation created two.ends h plain hn rfl
    · exact two.kinds.sublist start.sublist
    · intro i here own
      rw [all (by simp [here])]
      exact List.mem_cons_of_mem _ own
    · exact more
    · intro draws
      exact counts n hnode (start.subset draws)

theorem OneObject.Ends.counted {β : Type} [Element β] {one : OneObject β} {node : Option Nat}
    (end_ : one.Ends node s t) (others : .participant ≠ one.object)
    (counts : ∀ n, node = some n → k = one.object →
      count (s.w.ent.contextOf n) < count' (s.w.ent.contextOf n)) : Counted k count' t := by
  rcases end_ with rfl | ⟨n, i, hnode, hn, -, held, texts, ks, rs, single, created⟩
  · exact h.mono more
  · have kinds : ks = [] ∧ held = none ∨ ks = [one.object] := by
      cases single with
      | early => exact .inl ⟨rfl, rfl⟩
      | _ => exact .inr rfl
    have apart : .participant ∉ [one.object] := by simpa using others
    apply Counted.creation created apart h plain hn rfl
    · rcases kinds with ⟨rfl, -⟩ | rfl
      · exact List.nodup_nil
      · exact List.nodup_singleton _
    · intro i here own
      rcases kinds with ⟨-, none⟩ | rfl
      · rw [none] at here
        cases here
      · exact own
    · exact more
    · intro draws
      rcases kinds with ⟨rfl, -⟩ | rfl
      · cases draws
      · exact counts n hnode (List.mem_singleton.1 draws)

end Ends

/-- A new node has nothing yet. -/
theorem NodeEnd.subsides {c i : Nat} {name namespace_ : CStr} (wf : Wf cfg s)
    (slot : s.w.ent.node.get.1 = some i) (end_ : NodeEnd cfg c name namespace_ i s t)
    (plain : k.Plain = true) : Subsides k s t := by
  obtain ⟨held, ks, rs, single, created, -⟩ := end_
  have other : k ≠ .participant ∧ k ≠ .topic := by
    constructor <;>
    · rintro rfl
      cases plain
  have kinds : k ∉ ks ∧ (held = none ∨ held = some i) := by
    cases single with
    | early => simp
    | _ => simp [other.1]
  have fresh : i ∉ s.w.ent.node.elements := (wf.node.get_some slot).2.1
  have same : t.w.ent.cards k = s.w.ent.cards k := by
    rw [created.cards k other.2]
    cases held with
    | none => rfl
    | some x => exact if_neg (by simpa using other.1)
  have nodes := created.cards .participant (by decide)
  have old : ∀ node ∈ s.w.ent.cards .participant, node ∈ t.w.ent.cards .participant := by
    intro node mem
    rw [nodes]
    cases held with
    | none => exact mem
    | some x =>
      dsimp only
      rw [if_pos List.mem_cons_self]
      exact List.mem_cons_of_mem _ mem
  constructor
  · intro c' hc'
    rw [Slots.elements, created.session] at hc'
    refine ⟨hc', ?_⟩
    rw [created.session]
    by_cases e : c' = c
    · rw [e, Slots.update_custom_self, Session.counter_drawn_of_not_mem _ kinds.1]
    · rw [Slots.update_custom_of_ne _ _ e]
  · exact fun card mem => same ▸ mem
  · intro node mem
    rw [nodes] at mem
    rcases kinds.2 with rfl | rfl
    · exact .inl mem
    · dsimp only at mem
      rw [if_pos List.mem_cons_self] at mem
      rcases List.mem_cons.1 mem with rfl | mem
      · right
        intro old here same
        obtain ⟨n, hn, rfl⟩ := Slots.mem_cards.1 here
        have slot : n = i := same
        exact fresh (slot ▸ hn)
      · exact .inl mem
  · exact fun card _ node mem _ => old node mem

/-! ## Destructions -/

theorem ne_topic_of_plain (plain : k.Plain = true) : k ≠ .topic := by
  rintro rfl
  cases plain

/-- An entity other than a node is gone. -/
theorem Subsides.of_fini {β : Type} [Element β] (b : Bearer β) (aside : b.kind.Aside) {size i : Nat}
    {ts : Slots Topic} (ok : (b.kind.slots s.w.ent).Ok size) (hs : Handles (b.kind.slots s.w.ent))
    (hi : i ∈ (b.kind.slots s.w.ent).elements)
    (ent : t.w.ent = b.kind.withSlots ((b.kind.slots s.w.ent).fini id i) { s.w.ent with topic := ts })
    (others : .participant ∉ b.objects) (plain : k.Plain = true) : Subsides k s t := by
  obtain ⟨-, -, elements, custom⟩ := ok.fini hs hi id fun _ => rfl
  apply Subsides.of_pools
  · rw [ent, aside.session]
  · intro c
    rw [ent, aside.session]
  · rw [ent]
    exact b.others _ _ _ _ _ others (by decide)
  · intro card mem
    rw [ent] at mem
    have valid := ne_topic_of_plain plain
    have fewer := (b.erased (s := s.w.ent.session) (t := ts) ok.nodup elements custom valid).1
    exact fewer.subset mem

theorem TwoObjects.subsides {β : Type} [Element β] (two : TwoObjects β) {size i : Nat}
    (ok : (two.ep.kind.slots s.w.ent).Ok size) (hs : Handles (two.ep.kind.slots s.w.ent))
    (hi : i ∈ (two.ep.kind.slots s.w.ent).elements) (ent : t.w.ent = two.ep.destroyed i s.w.ent)
    (plain : k.Plain = true) : Subsides k s t := by
  obtain ⟨ts, destroyed, -⟩ := destroyedTopic_eq (deref (two.ep.topicOf s.w.ent i)) s.w.ent
  rw [Endpoint.destroyed, destroyed] at ent
  exact Subsides.of_fini two.bearer two.aside ok hs hi ent two.ends plain

/-- What is left in a pool that has been thinned out by owners. -/
theorem Thinned.cards {β : Type} {of : Option Nat → Bool} {ownerNode : β → Option Nat}
    {id : β → UxrObjectId} {u v : Slots β} (h : Thinned (fun b => of (ownerNode b)) u v) {card : Card}
    (mem : card ∈ v.cards ownerNode id) : card ∈ u.cards ownerNode id ∧ of card.parent = false := by
  obtain ⟨i, hi, rfl⟩ := Slots.mem_cards.1 mem
  have same := h.custom i hi
  rw [h.elements, List.mem_filter] at hi
  rw [same]
  exact ⟨Slots.mem_cards.2 ⟨i, hi.1, rfl⟩, by simpa using hi.2⟩

theorem EntitiesThinned.cards {of : Option Nat → Bool} {e e' : Entities} (h : EntitiesThinned of e e')
    (plain : k.Plain = true) {card : Card} (mem : card ∈ e'.cards k) :
    card ∈ e.cards k ∧ of card.parent = false := by
  cases k with
  | publisher => exact h.publisher.cards mem
  | datawriter => exact h.publisher.cards mem
  | requester => exact h.client.cards mem
  | replier => exact h.service.cards mem
  | _ => cases plain

/-- Nodes have gone with their entities. -/
theorem EntitiesThinned.subsides {of : Option Nat → Bool} (entities : EntitiesThinned of s.w.ent t.w.ent)
    (plain : k.Plain = true)
    (session : ∀ c ∈ t.w.ent.session.elements, c ∈ s.w.ent.session.elements ∧
      t.w.ent.session.custom c = s.w.ent.session.custom c)
    (nodes : ∀ n ∈ t.w.ent.node.elements, n ∈ s.w.ent.node.elements ∧
      t.w.ent.node.custom n = s.w.ent.node.custom n)
    (left : ∀ n ∈ s.w.ent.node.elements, of (some n) = false → n ∈ t.w.ent.node.elements) :
    Subsides k s t := by
  constructor
  · intro c hc
    obtain ⟨old, same⟩ := session c hc
    exact ⟨old, by rw [same]⟩
  · exact fun card mem => (entities.cards plain mem).1
  · intro node mem
    left
    obtain ⟨n, hn, rfl⟩ := Slots.mem_cards.1 mem
    obtain ⟨old, same⟩ := nodes n hn
    rw [same]
    exact Entities.nodeCard old
  · intro card mem node here parent
    obtain ⟨n, hn, rfl⟩ := Slots.mem_cards.1 here
    have other := (entities.cards plain mem).2
    rw [parent] at other
    have stays := left n hn other
    rw [← (nodes n stays).2]
    exact Entities.nodeCard stays

/-- **`rmw_destroy_node`**, on a node in use. -/
theorem rmwDestroyNode_subsides (wf : Wf cfg s) {n : Nat} (hn : n ∈ s.w.ent.node.elements)
    (plain : k.Plain = true) : Subsides k s (rmwDestroyNode cfg (some n) s).2 := by
  obtain ⟨-, -, -, session, erased⟩ := rmwDestroyNode_run wf hn
  have elements : (rmwDestroyNode cfg (some n) s).2.w.ent.node.elements =
    s.w.ent.node.elements.erase n := erased.elements
  apply (rmwDestroyNode_thinned wf hn).subsides plain
  · intro c hc
    rw [session] at hc ⊢
    exact ⟨hc, rfl⟩
  · intro m hm
    rw [elements, wf.node.nodup.mem_erase_iff] at hm
    exact ⟨hm.2, erased.custom m hm.1⟩
  · intro m hm other
    rw [elements, wf.node.nodup.mem_erase_iff]
    refine ⟨?_, hm⟩
    rintro rfl
    simp at other

/-- The entities after `rmw_shutdown` without a context. -/
theorem rmwShutdown_null (cfg : Config) (s : State) : (rmwShutdown cfg none s).2.w.ent =
    (destroyAll .node (fun n => n.context == none) (fun i => rmwDestroyNode cfg (some i))
      (fun _ => false) .ok s).2.w.ent := flushLoop_ent _ _ _

/-- **`rmw_shutdown`** -/
theorem rmwShutdown_subsides (wf : Wf cfg s) (impl : Option Nat)
    (live : ∀ c, impl = some c → c ∈ s.w.ent.session.elements) (plain : k.Plain = true) :
    Subsides k s (rmwShutdown cfg impl s).2 := by
  have facts : (∀ c ∈ (rmwShutdown cfg impl s).2.w.ent.session.elements,
      c ∈ s.w.ent.session.elements ∧ (rmwShutdown cfg impl s).2.w.ent.session.custom c =
        s.w.ent.session.custom c) ∧
      Thinned (fun n : Node => n.context == impl) s.w.ent.node (rmwShutdown cfg impl s).2.w.ent.node ∧
      EntitiesThinned (s.w.ent.nodeOf impl) s.w.ent (rmwShutdown cfg impl s).2.w.ent := by
    cases impl with
    | none =>
      rw [rmwShutdown_null]
      obtain ⟨session, node, entities⟩ := destroyNodes_thinned wf none
      rw [session]
      exact ⟨fun c hc => ⟨hc, rfl⟩, node, entities⟩
    | some c =>
      obtain ⟨session, node, entities⟩ := rmwShutdown_thinned wf c
      rw [session]
      refine ⟨fun c' hc' => ?_, node, entities⟩
      rw [(wf.session.put (live c rfl)).2] at hc'
      exact ⟨List.mem_of_mem_erase hc', rfl⟩
  obtain ⟨session, node, entities⟩ := facts
  apply entities.subsides plain session
  · intro n hn
    have same := node.custom n hn
    rw [node.elements, List.mem_filter] at hn
    exact ⟨hn.1, same⟩
  · intro n hn other
    rw [node.elements, List.mem_filter]
    refine ⟨hn, ?_⟩
    have apart : ¬ s.w.ent.nodeOf impl (some n) = true := by simp [other]
    rw [Entities.nodeOf_eq_true] at apart
    simp only [Bool.not_eq_true', beq_eq_false_iff_ne]
    exact fun own => apart ⟨n, hn, own, rfl⟩

/-! ## The other calls -/

theorem Quiet.subsides (h : Quiet s t) (plain : k.Plain = true) : Subsides k s t := by
  apply Subsides.of_pools h.memory
  · exact fun c => (h.session c).counter k
  · simp only [Entities.cards, h.node]
  · intro card mem
    cases k with
    | publisher | datawriter | requester | replier =>
      simpa only [Entities.cards, h.publisher, h.client, h.service] using mem
    | _ => cases plain

/-- `rmw_init` without a session. -/
theorem GaveUp.subsides (h : GaveUp s t) (plain : k.Plain = true) : Subsides k s t := by
  have nodes := h.cards .participant (by decide)
  constructor
  · intro c hc
    rw [h.elements] at hc
    exact ⟨hc, by rw [h.others c hc]⟩
  · exact fun card mem => h.cards k (ne_topic_of_plain plain) ▸ mem
  · exact fun node mem => .inl (nodes ▸ mem)
  · exact fun card _ node mem _ => nodes ▸ mem

/-! ## Counting -/

/-- The node an entity is to be created for. -/
def Call.parentNode : Call → Option Nat
  | .createPublisher node _ _ _ | .createSubscription node _ _ _ | .createService node _ _ _ _
  | .createClient node _ _ _ _ => node
  | _ => none

/-- A creation of an object of the kind is tried in the context. -/
def Call.createsIn (e : Entities) (k : ObjectKind) (c : Nat) (call : Call) : Bool :=
  call.objects.contains k && call.parentNode.any fun n => e.contextOf n == c

/-- The context that `rmw_init` opens. -/
def Call.opens (cfg : Config) (s : State) : Call → Option Nat
  | .init env => (rmwInit cfg env s).1.2
  | _ => none

/-- The creations tried since the context was opened, after one more call. -/
def Call.counting (cfg : Config) (s : State) (k : ObjectKind) (count : Nat → Nat) (call : Call) (c : Nat) :
    Nat :=
  if call.opens cfg s = some c then 0
  else if call.createsIn s.w.ent k c then count c + 1 else count c

/-- How many objects of the kind have been tried to create in the context since it was opened. -/
def creations (cfg : Config) (k : ObjectKind) (is : List Step) : Nat → Nat :=
  (Runs.exec (fun p i => (step cfg p.1 i, i.call.counting cfg (p.1.enter i) k p.2))
    (State.zero, fun _ => 0) is).2

section Calls

variable {call : Call}

/-- A call that opens no context. -/
theorem Call.counting_of_inside (opens : call.opens cfg s = none) (c : Nat) :
    call.counting cfg s k count c = if call.createsIn s.w.ent k c then count c + 1 else count c := by
  rw [counting, opens, if_neg (by simp)]

theorem Call.le_counting (opens : call.opens cfg s = none) (c : Nat) :
    count c ≤ call.counting cfg s k count c := by
  rw [counting_of_inside opens]
  split <;> omega

theorem Call.lt_counting (opens : call.opens cfg s = none) {n : Nat} (node : call.parentNode = some n)
    (creates : k ∈ call.objects) :
    count (s.w.ent.contextOf n) < call.counting cfg s k count (s.w.ent.contextOf n) := by
  have own : call.createsIn s.w.ent k (s.w.ent.contextOf n) = true := by
    simp [createsIn, creates, node]
  rw [counting_of_inside opens, if_pos own]
  omega

/-- **A call**, on live objects. -/
theorem perform_counted (h : Counted k count s) (wf : Wf cfg s) (plain : k.Plain = true)
    (defined : call.defined s.w.ent = true) :
    Counted k (call.counting cfg s k count) (perform cfg call s).2 := by
  have less : call.opens cfg s = none → Subsides k s (perform cfg call s).2 →
      Counted k (call.counting cfg s k count) (perform cfg call s).2 :=
    fun opens subsides => (h.mono (Call.le_counting opens)).subsides subsides
  have same : call.opens cfg s = none → (perform cfg call s).2 = s →
      Counted k (call.counting cfg s k count) (perform cfg call s).2 := by
    intro opens same
    rw [same]
    exact h.mono (Call.le_counting opens)
  have quiet : call.Quiet = true → call.opens cfg s = none →
      Counted k (call.counting cfg s k count) (perform cfg call s).2 :=
    fun quiet opens => less opens ((perform_quiet quiet s).subsides plain)
  cases call with
  | init env =>
    have opens := rmwInit_opens wf env
    have reached : (perform cfg (.init env) s).2 = (rmwInit cfg env s).2 := rfl
    rw [reached]
    cases impl : (rmwInit cfg env s).1.2 with
    | none =>
      rw [impl] at opens
      have opened : (Call.init env).opens cfg s = none := impl
      exact (h.mono (Call.le_counting opened)).subsides (GaveUp.subsides opens plain)
    | some c =>
      rw [impl] at opens
      have fresh : (fun c' => if c' = c then 0 else count c') =
          (Call.init env).counting cfg s k count := by
        funext c'
        have opened : (Call.init env).opens cfg s = some c := impl
        rw [Call.counting, opened]
        by_cases e : c' = c
        · rw [if_pos e, if_pos (congrArg some e.symm)]
        · have creates : (Call.init env).createsIn s.w.ent k c' = false := by
            simp [Call.createsIn, Call.objects]
          rw [if_neg e, if_neg fun same => e (Option.some.inj same).symm, creates]
          rfl
      exact fresh ▸ h.opened wf plain opens
  | shutdown impl =>
    apply less rfl
    apply rmwShutdown_subsides wf impl
    · rintro c rfl
      simpa [Call.defined] using defined
    · exact plain
  | createNode context name namespace_ =>
    rcases rmwCreateNode_ends wf context name namespace_ with unchanged | ⟨i, n, ns, -, -, slot, end_⟩
    · exact same rfl unchanged
    · exact less rfl (end_.subsides wf slot plain)
  | destroyNode node =>
    rcases rmwDestroyNode_cases wf node with ⟨n, rfl, hn⟩ | refused
    · exact less rfl (rmwDestroyNode_subsides wf hn plain)
    · exact same rfl (congrArg Prod.snd refused)
  | createPublisher node typeSupport topicName qosPolicies =>
    exact (rmwCreatePublisher_ends wf node typeSupport topicName qosPolicies).counted h plain
      (Call.le_counting rfl) fun n hn creates => Call.lt_counting rfl hn creates
  | destroyPublisher node publisher =>
    rcases rmwDestroyPublisher_cases wf node publisher with ⟨n, i, rfl, rfl, hn, hi⟩ | refused
    · exact less rfl (TwoObjects.publisher.subsides wf.publisher wf.publisherHandles hi
        (rmwDestroyPublisher_effect wf hn hi).1.ent plain)
    · exact same rfl (congrArg Prod.snd refused)
  | createSubscription node typeSupport topicName qosPolicies =>
    exact (rmwCreateSubscription_ends wf node typeSupport topicName qosPolicies).counted h plain
      (Call.le_counting rfl) fun n hn creates => Call.lt_counting rfl hn creates
  | destroySubscription node subscription =>
    rcases rmwDestroySubscription_cases wf node subscription with ⟨n, i, rfl, rfl, hn, hi⟩ | refused
    · exact less rfl (TwoObjects.subscription.subsides wf.subscription wf.subscriptionHandles hi
        (rmwDestroySubscription_effect wf hn hi).1.ent plain)
    · exact same rfl (congrArg Prod.snd refused)
  | createService node typeSupport serviceName qosPolicies requestId =>
    exact (rmwCreateService_ends wf node typeSupport serviceName qosPolicies requestId).counted h plain
      (Call.le_counting rfl) (by decide) fun n hn creates =>
        Call.lt_counting rfl hn (List.mem_singleton.2 creates)
  | destroyService node service =>
    rcases rmwDestroyService_cases wf node service with ⟨n, i, rfl, rfl, hn, hi⟩ | refused
    · exact less rfl (Subsides.of_fini OneObject.service.bearer OneObject.service.aside wf.service
        wf.serviceHandles hi (rmwDestroyService_effect wf hn hi).1.ent (by decide) plain)
    · exact same rfl (congrArg Prod.snd refused)
  | createClient node typeSupport serviceName qosPolicies requestId =>
    exact (rmwCreateClient_ends wf node typeSupport serviceName qosPolicies requestId).counted h plain
      (Call.le_counting rfl) (by decide) fun n hn creates =>
        Call.lt_counting rfl hn (List.mem_singleton.2 creates)
  | destroyClient node client =>
    rcases rmwDestroyClient_cases wf node client with ⟨n, i, rfl, rfl, hn, hi⟩ | refused
    · exact less rfl (Subsides.of_fini OneObject.client.bearer OneObject.client.aside wf.client
        wf.clientHandles hi (rmwDestroyClient_effect wf hn hi).1.ent (by decide) plain)
    · exact same rfl (congrArg Prod.snd refused)
  | _ => exact quiet rfl rfl

/-- Only calls on live objects open contexts. -/
theorem Call.opens_of_undefined (undefined : call.defined s.w.ent ≠ true) : call.opens cfg s = none := by
  cases call with
  | init env => exact absurd rfl undefined
  | _ => rfl

theorem step_counted (h : Counted k count s) (ready : Ready cfg s) (plain : k.Plain = true) (i : Step) :
    Counted k (i.call.counting cfg (s.enter i) k count) (step cfg s i) := by
  have start : Counted k count (s.enter i) := { h with }
  rw [step, RmwMicroxrcedds.call]
  split
  · exact perform_counted start { ready.wf with } plain ‹_›
  · rename_i undefined
    have undefined : i.call.defined (s.enter i).w.ent ≠ true := undefined
    exact h.mono (Call.le_counting (Call.opens_of_undefined undefined))

end Calls

theorem counted_zero (k : ObjectKind) : Counted k (fun _ => 0) State.zero := by
  have none : State.zero.w.ent.cards k = [] := by cases k <;> rfl
  have empty : ∀ c i id, ¬ State.zero.w.ent.Issued k c i id := by
    rintro c i id ⟨card, mem, -⟩
    rw [none] at mem
    cases mem
  constructor
  · intro card mem
    rw [none] at mem
    cases mem
  · intro c hc
    cases hc
  · exact fun c _ _ i id issued => absurd issued (empty c i id)
  · exact fun c _ _ i j id issued => absurd issued (empty c i id)

/-- **Every reachable state**, with the creations of the run that led there. -/
theorem counted_of_run (cfg : Config) (is : List Step) (plain : k.Plain = true) :
    Counted k (creations cfg k is) (run cfg is) := by
  have along : ∀ (is : List Step) (p : State × (Nat → Nat)), Ready cfg p.1 → Counted k p.2 p.1 →
      let q := Runs.exec (fun p i => (step cfg p.1 i, i.call.counting cfg (p.1.enter i) k p.2)) p is
      q.1 = Runs.exec (step cfg) p.1 is ∧ Counted k q.2 q.1 := by
    intro is
    induction is with
    | nil => exact fun p _ counted => ⟨rfl, counted⟩
    | cons i is ih =>
      intro p ready counted
      exact ih _ (step_path ready i).2 (step_counted counted ready plain i)
  obtain ⟨same, counted⟩ := along is (State.zero, fun _ => 0) (ready_zero cfg) (counted_zero k)
  rw [same] at counted
  exact counted

/-- A run creates at most as much as it has steps. -/
theorem creations_le_length (cfg : Config) (k : ObjectKind) (is : List Step) (c : Nat) :
    creations cfg k is c ≤ is.length := by
  have along : ∀ (is : List Step) (p : State × (Nat → Nat)) (n : Nat), (∀ c, p.2 c ≤ n) → ∀ c,
      (Runs.exec (fun p i => (step cfg p.1 i, i.call.counting cfg (p.1.enter i) k p.2)) p is).2 c ≤
        n + is.length := by
    intro is
    induction is with
    | nil => exact fun p n bound => bound
    | cons i is ih =>
      intro p n bound c
      have next := ih (step cfg p.1 i, i.call.counting cfg (p.1.enter i) k p.2) (n + 1) (fun c => by
        have := bound c
        unfold Call.counting
        dsimp only
        split
        · omega
        · split <;> omega) c
      rw [List.length_cons]
      rw [Runs.exec_cons]
      omega
  have := along is (State.zero, fun _ => 0) 0 (fun _ => Nat.le_refl _) c
  rw [Nat.zero_add] at this
  exact this

end RmwMicroxrcedds
