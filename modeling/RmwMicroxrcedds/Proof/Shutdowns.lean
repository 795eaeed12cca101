import RmwMicroxrcedds.Proof.Steps

/-!
# What a shutdown takes away

Destroying a node thins out the pools of the entities: those of the node are released, the others
stay as they are and in their order. A shutdown does so for every node of its context, and then
empties the pool of static buffers.
-/

namespace RmwMicroxrcedds
set_option autoImplicit false

variable {cfg : Config} {β : Type}

/-! ## Thinned pools -/

section Thinned
variable {mine other : β → Bool} {t u v : Slots β} {i : Nat}

/-- What is left are the elements that do not satisfy the predicate, as they were. -/
structure Thinned (mine : β → Bool) (t u : Slots β) : Prop where
  elements : u.elements = t.elements.filter fun i => !mine (t.custom i)
  custom : ∀ i ∈ u.elements, u.custom i = t.custom i

/-- The way there: every other element is still in use. -/
structure Thinning (mine : β → Bool) (t u : Slots β) : Prop where
  others : (u.elements.filter fun i => !mine (t.custom i)) =
    t.elements.filter fun i => !mine (t.custom i)
  custom : ∀ i ∈ u.elements, u.custom i = t.custom i

theorem Thinning.refl (mine : β → Bool) (t : Slots β) : Thinning mine t t := ⟨rfl, fun _ _ => rfl⟩

/-- One of the elements is released. -/
theorem Thinning.erase (h : Thinning mine t u) (nodup : u.elements.Nodup) (hi : i ∈ u.elements)
    (own : mine (u.custom i) = true) (elements : v.elements = u.elements.erase i)
    (others : ∀ j, j ≠ i → v.custom j = u.custom j) : Thinning mine t v where
  others := by
    have dropped : i ∉ u.elements.filter fun i => !mine (t.custom i) := by
      rw [List.mem_filter, ← h.custom i hi, own]
      simp
    rw [elements, ← List.erase_filter, List.erase_of_not_mem dropped, h.others]
  custom j hj := by
    rw [elements, nodup.mem_erase_iff] at hj
    rw [others j hj.1, h.custom j hj.2]

/-- All of them have been. -/
theorem Thinning.thinned (h : Thinning mine t u)
    (vacant : ∀ i ∈ u.elements, mine (u.custom i) = false) : Thinned mine t u where
  elements := by
    rw [← h.others]
    refine (List.filter_eq_self.2 fun i hi => ?_).symm
    rw [← h.custom i hi, vacant i hi]
    rfl
  custom := h.custom

theorem Thinned.trans (h : Thinned mine t u) (k : Thinned other u v) :
    Thinned (fun b => mine b || other b) t v where
  elements := by
    rw [k.elements, List.filter_congr fun i hi => by rw [h.custom i hi], h.elements,
      List.filter_filter]
    refine List.filter_congr fun i _ => ?_
    cases mine (t.custom i) <;> cases other (t.custom i) <;> rfl
  custom i hi := by
    have mem : i ∈ u.elements := by
      rw [k.elements] at hi
      exact List.mem_of_mem_filter hi
    rw [k.custom i hi, h.custom i mem]

theorem Thinned.refl (t : Slots β) : Thinned (fun _ => false) t t := by
  refine ⟨?_, fun _ _ => rfl⟩
  simp

end Thinned

/-! ## The entities of a node -/

/-- Of the four pools of entities those are released whose node satisfies the predicate. -/
structure EntitiesThinned (of : Option Nat → Bool) (e e' : Entities) : Prop where
  publisher : Thinned (fun b => of b.ownerNode) e.publisher e'.publisher
  subscription : Thinned (fun b => of b.ownerNode) e.subscription e'.subscription
  service : Thinned (fun b => of b.ownerNode) e.service e'.service
  client : Thinned (fun b => of b.ownerNode) e.client e'.client

theorem EntitiesThinned.refl (e : Entities) : EntitiesThinned (fun _ => false) e e :=
  ⟨.refl _, .refl _, .refl _, .refl _⟩

theorem EntitiesThinned.trans {of of' : Option Nat → Bool} {e e' e'' : Entities}
    (h : EntitiesThinned of e e') (k : EntitiesThinned of' e' e'') :
    EntitiesThinned (fun n => of n || of' n) e e'' :=
  ⟨h.publisher.trans k.publisher, h.subscription.trans k.subscription, h.service.trans k.service,
    h.client.trans k.client⟩

theorem EntitiesThinned.congr {of of' : Option Nat → Bool} {e e' : Entities}
    (h : EntitiesThinned of e e') (same : ∀ n, of n = of' n) : EntitiesThinned of' e e' :=
  funext same ▸ h

/-- The destruction of a node, between two of its entities. -/
structure NodeThinning (cfg : Config) (n : Nat) (s₀ s : State) : Prop where
  reached : Reached cfg s₀ s
  publisher : Thinning (ofNode (·.ownerNode) n) s₀.w.ent.publisher s.w.ent.publisher
  subscription : Thinning (ofNode (·.ownerNode) n) s₀.w.ent.subscription s.w.ent.subscription
  service : Thinning (ofNode (·.ownerNode) n) s₀.w.ent.service s.w.ent.service
  client : Thinning (ofNode (·.ownerNode) n) s₀.w.ent.client s.w.ent.client

/-- The release of an entity of the node. -/
theorem Thinning.fini [Element β] {size n i : Nat} {ownerNode : β → Option Nat} {t u : Slots β}
    (h : Thinning (ofNode ownerNode n) t u) (ok : u.Ok size) (hs : Handles u) (hi : i ∈ u.elements)
    (own : ownerNode (u.custom i) = some n) : Thinning (ofNode ownerNode n) t (u.fini id i) := by
  obtain ⟨-, -, elements, others⟩ := ok.fini hs hi id fun _ => rfl
  exact h.erase ok.nodup hi (beq_iff_eq.2 own) elements others

theorem destroyedTopic_service (topic : Nat) (e : Entities) :
    (destroyedTopic topic e).service = e.service := by
  unfold destroyedTopic
  split <;> rfl

theorem destroyedTopic_client (topic : Nat) (e : Entities) :
    (destroyedTopic topic e).client = e.client := by
  unfold destroyedTopic
  split <;> rfl

theorem thinning_rule {s₀ : State} {n : Nat} (hn : n ∈ s₀.w.ent.node.elements) :
    NodeRule cfg n (NodeThinning cfg n s₀) where
  wf _ h := h.reached.wf
  node _ h := by
    have reached : NodeRule cfg n (Reached cfg s₀) := reached_rule hn
    exact reached.node _ h.reached
  publisher s i h hi own := by
    have wf := h.reached.wf
    obtain ⟨effect, -⟩ := rmwDestroyPublisher_effect wf (h.reached.node ▸ hn) hi
    have ent := effect.ent
    refine ⟨(reached_rule hn).publisher s i h.reached hi own, ?_, ?_, ?_, ?_⟩
    · rw [ent]
      exact h.publisher.fini wf.publisher wf.publisherHandles hi own
    · rw [ent, destroyedPublisher]
      exact destroyedTopic_subscription _ s.w.ent ▸ h.subscription
    · rw [ent, destroyedPublisher]
      exact destroyedTopic_service _ s.w.ent ▸ h.service
    · rw [ent, destroyedPublisher]
      exact destroyedTopic_client _ s.w.ent ▸ h.client
  subscription s i h hi own := by
    have wf := h.reached.wf
    obtain ⟨effect, -⟩ := rmwDestroySubscription_effect wf (h.reached.node ▸ hn) hi
    have ent := effect.ent
    refine ⟨(reached_rule hn).subscription s i h.reached hi own, ?_, ?_, ?_, ?_⟩
    · rw [ent, destroyedSubscription]
      exact destroyedTopic_publisher _ s.w.ent ▸ h.publisher
    · rw [ent]
      exact h.subscription.fini wf.subscription wf.subscriptionHandles hi own
    · rw [ent, destroyedSubscription]
      exact destroyedTopic_service _ s.w.ent ▸ h.service
    · rw [ent, destroyedSubscription]
      exact destroyedTopic_client _ s.w.ent ▸ h.client
  service s i h hi own := by
    have wf := h.reached.wf
    obtain ⟨effect, -⟩ := rmwDestroyService_effect wf (h.reached.node ▸ hn) hi
    have ent := effect.ent
    refine ⟨(reached_rule hn).service s i h.reached hi own, ?_, ?_, ?_, ?_⟩
    · exact ent ▸ h.publisher
    · exact ent ▸ h.subscription
    · rw [ent]
      exact h.service.fini wf.service wf.serviceHandles hi own
    · exact ent ▸ h.client
  client s i h hi own := by
    have wf := h.reached.wf
    obtain ⟨effect, -⟩ := rmwDestroyClient_effect wf (h.reached.node ▸ hn) hi
    have ent := effect.ent
    refine ⟨(reached_rule hn).client s i h.reached hi own, ?_, ?_, ?_, ?_⟩
    · exact ent ▸ h.publisher
    · exact ent ▸ h.subscription
    · exact ent ▸ h.service
    · rw [ent]
      exact h.client.fini wf.client wf.clientHandles hi own

/-- **`rmw_destroy_node`** releases the entities of the node and leaves the others as they are. -/
theorem rmwDestroyNode_thinned {s : State} (wf : Wf cfg s) {n : Nat}
    (hn : n ∈ s.w.ent.node.elements) :
    EntitiesThinned (· == some n) s.w.ent (rmwDestroyNode cfg (some n) s).2.w.ent := by
  obtain ⟨u, ret, h, bare, -, e⟩ := (thinning_rule hn).run
    (⟨⟨.refl, wf, rfl, rfl, rfl⟩, .refl _ _, .refl _ _, .refl _ _, .refl _ _⟩ :
      NodeThinning cfg n s s)
  have effect := destroyParticipant_effect h.reached.wf (h.reached.node ▸ hn) ret
  rw [e, effect.ent]
  exact ⟨h.publisher.thinned bare.publisher, h.subscription.thinned bare.subscription,
    h.service.thinned bare.service, h.client.thinned bare.client⟩

/-! ## The nodes of a context -/

/-- The node is one in use that belongs to the context. -/
def Entities.nodeOf (e : Entities) (impl : Option Nat) (node : Option Nat) : Bool :=
  e.node.elements.any fun n => (e.node.custom n).context == impl && node == some n

theorem Entities.nodeOf_eq_true {e : Entities} {impl node : Option Nat} :
    e.nodeOf impl node = true ↔
      ∃ n ∈ e.node.elements, (e.node.custom n).context = impl ∧ node = some n := by
  simp [nodeOf]

/-- The node loop of `rmw_context_fini`, between two nodes; `gone` lists those destroyed so far. -/
structure ContextThinning (cfg : Config) (impl : Option Nat) (gone : List Nat) (s₀ s : State) :
    Prop where
  wf : Wf cfg s
  session : s.w.ent.session = s₀.w.ent.session
  node : Thinning (·.context == impl) s₀.w.ent.node s.w.ent.node
  left : ∀ n, n ∈ gone ↔ n ∈ s₀.w.ent.node.elements ∧ n ∉ s.w.ent.node.elements
  mine : ∀ n ∈ gone, (s₀.w.ent.node.custom n).context = impl
  entities : EntitiesThinned (fun node => gone.any fun n => node == some n) s₀.w.ent s.w.ent

theorem ContextThinning.destroy {impl : Option Nat} {gone : List Nat} {s₀ s : State}
    (h : ContextThinning cfg impl gone s₀ s) (sub : s.w.ent.node.elements ⊆ s₀.w.ent.node.elements)
    {n : Nat} (hn : n ∈ s.w.ent.node.elements)
    (own : ((s.w.ent.node.custom n).context == impl) = true) :
    ContextThinning cfg impl (n :: gone) s₀ (rmwDestroyNode cfg (some n) s).2 := by
  obtain ⟨-, wf, -, session, erased⟩ := rmwDestroyNode_run h.wf hn
  have thinned := rmwDestroyNode_thinned h.wf hn
  have elements : (rmwDestroyNode cfg (some n) s).2.w.ent.node.elements =
    s.w.ent.node.elements.erase n := erased.elements
  have nodup := h.wf.node.nodup
  refine ⟨wf, session.trans h.session, h.node.erase nodup hn own elements erased.custom,
    fun m => ?_, fun m hm => ?_, ?_⟩
  · rw [List.mem_cons, h.left, elements, nodup.mem_erase_iff]
    constructor
    · rintro (rfl | ⟨mem, left⟩)
      · exact ⟨sub hn, fun h => h.1 rfl⟩
      · exact ⟨mem, fun h => left h.2⟩
    · rintro ⟨mem, left⟩
      by_cases e : m = n
      · exact .inl e
      · exact .inr ⟨mem, fun h => left ⟨e, h⟩⟩
  · obtain rfl | hm := List.mem_cons.1 hm
    · rw [← h.node.custom m hn]
      exact eq_of_beq own
    · exact h.mine m hm
  · refine (h.entities.trans thinned).congr fun node => ?_
    rw [List.any_cons, Bool.or_comm]

theorem destroyNodes_thinned {s : State} (wf : Wf cfg s) (impl : Option Nat) :
    let r := destroyAll .node (fun n => n.context == impl) (fun i => rmwDestroyNode cfg (some i))
      (fun _ => false) .ok s
    r.2.w.ent.session = s.w.ent.session ∧
      Thinned (fun n : Node => n.context == impl) s.w.ent.node r.2.w.ent.node ∧
      EntitiesThinned (s.w.ent.nodeOf impl) s.w.ent r.2.w.ent := by
  intro r
  obtain ⟨-, ⟨gone, h, sub⟩, vacant⟩ := destroyAll_rule .node
    (fun n => n.context == impl) (fun i => rmwDestroyNode cfg (some i)) (fun _ => false)
    (J := fun t => ∃ gone, ContextThinning cfg impl gone s t ∧
      t.w.ent.node.elements ⊆ s.w.ent.node.elements)
    (fun t ⟨_, h, _⟩ => h.wf.node)
    (fun t n ⟨gone, h, sub⟩ hn own => by
      obtain ⟨-, -, -, -, erased⟩ := rmwDestroyNode_run h.wf hn
      refine ⟨rfl, ⟨n :: gone, h.destroy sub hn own, fun m hm => ?_⟩, erased⟩
      rw [show (rmwDestroyNode cfg (some n) t).2.w.ent.node.elements = _ from erased.elements] at hm
      exact sub (List.mem_of_mem_erase hm))
    .ok (s := s) ⟨[], ⟨wf, rfl, .refl _ _, by simp, by simp, .refl _⟩, fun _ => id⟩
  have node := h.node.thinned vacant
  refine ⟨h.session, node, h.entities.congr fun o => ?_⟩
  rw [Bool.eq_iff_iff, Entities.nodeOf_eq_true, List.any_eq_true]
  constructor
  · rintro ⟨n, hn, e⟩
    exact ⟨n, ((h.left n).1 hn).1, h.mine n hn, eq_of_beq e⟩
  · rintro ⟨n, hn, own, rfl⟩
    refine ⟨n, (h.left n).2 ⟨hn, fun left => ?_⟩, beq_self_eq_true _⟩
    rw [node.elements, List.mem_filter] at left
    simp [own] at left

/-! ## The shutdown -/

/-- The end of `rmw_context_fini`, after the node loop. -/
theorem rmwContextFini_ent (cfg : Config) (context : Nat) (s : State) :
    let r := destroyAll .node (fun n => n.context == some context)
      (fun i => rmwDestroyNode cfg (some i)) (fun _ => false) .ok s
    (rmwContextFini cfg (some context) s).2.w.ent =
      { r.2.w.ent with session := r.2.w.ent.session.put context } := by
  intro r
  rw [rmwContextFini, Prog.bind_run]
  show ((_ : Prog RmwRet) r.2).2.w.ent = _
  dsimp only
  rw [Prog.bind_run, readElement_run]
  dsimp only
  have closed : ∀ u : State, ((do
      rmwUxrceFiniSessionMemory context
      closeTransport cfg context true
      return r.1.2 : Prog RmwRet) u).2.w.ent = { u.w.ent with session := u.w.ent.session.put context } :=
    fun _ => congrArg World.ent (closeTransport_world ..)
  split
  · have run := (uxrRunSession_frame cfg context r.2).ent
    rw [← run]
    exact closed _
  · exact closed _

/-- **`rmw_shutdown`** on an open context: its session, its nodes and the entities of these are
released, and nothing else of the pools changes. -/
theorem rmwShutdown_thinned {s : State} (wf : Wf cfg s) (context : Nat) :
    let t := (rmwShutdown cfg (some context) s).2
    t.w.ent.session = s.w.ent.session.put context ∧
      Thinned (fun n : Node => n.context == some context) s.w.ent.node t.w.ent.node ∧
      EntitiesThinned (s.w.ent.nodeOf (some context)) s.w.ent t.w.ent := by
  obtain ⟨session, node, entities⟩ := destroyNodes_thinned wf (some context)
  have ent : (rmwShutdown cfg (some context) s).2.w.ent =
      (rmwContextFini cfg (some context) s).2.w.ent := flushLoop_ent _ _ _
  dsimp only
  rw [ent, rmwContextFini_ent, session]
  exact ⟨rfl, node, entities.publisher, entities.subscription, entities.service, entities.client⟩

end RmwMicroxrcedds
