import RmwMicroxrcedds.Proof.TopicOwners

/-!
# Destroying a node

`rmw_destroy_node` walks along the four lists of entities, from which every single destruction
unlinks the element just visited, and takes away the entities of the node and their topics. The
others stay in use, with their fields and in their order.
-/

namespace RmwMicroxrcedds
set_option autoImplicit false

variable {cfg : Config} {β : Type}

/-! ## The topics of the node -/

/-- The destruction of an endpoint of the node releases a topic of the node. -/
theorem TwoObjects.destroyed_thinning [Element β] (two : TwoObjects β) {t : Slots Topic}
    {e : Entities} {n i : Nat} (ledger : Ledger cfg e) (owns : two.Owns e)
    (h : Thinning (ofNode Topic.ownerNode n) t e.topic) (hi : i ∈ (two.ep.kind.slots e).elements)
    (own : two.ownerNode ((two.ep.kind.slots e).custom i) = some n) :
    Thinning (ofNode Topic.ownerNode n) t (two.ep.destroyed i e).topic := by
  obtain ⟨x, hx, topic⟩ := two.ep.topicOf_mem ledger hi
  have owner : (e.topic.custom x).ownerNode = some n := (owns i hi x topic).trans own
  rw [two.ep.destroyed_topic ledger topic hx]
  apply h.erase ledger.topics.ok.nodup hx (beq_iff_eq.2 owner)
  · exact (ledger.topics.release hx).elements
  · exact fun y ne => Slots.finiTopic_custom ne

/-- The owner of a topic in use has an endpoint in use. -/
theorem Bare.topic {e : Entities} {n : Nat} (bare : Bare n e) (matched : Matched cfg e) {x : Nat}
    (hx : x ∈ e.topic.elements) : ofNode Topic.ownerNode n (e.topic.custom x) = false := by
  rcases Endpoint.publisher.topicOf_of_mem matched.ledger hx with ⟨i, hi, topic⟩ | ⟨i, hi, topic⟩
  · have owner := matched.publisher i hi x topic
    rw [ofNode, owner]
    exact bare.publisher i hi
  · have owner := matched.subscription i hi x topic
    rw [ofNode, owner]
    exact bare.subscription i hi

/-- **`rmw_destroy_node`** releases the topics of the node and leaves the others as they are. -/
theorem rmwDestroyNode_topics {s : State} (wf : Wf cfg s) (before : Matched cfg s.w.ent) {n : Nat}
    (hn : n ∈ s.w.ent.node.elements) : Thinned (ofNode Topic.ownerNode n) s.w.ent.topic
      (rmwDestroyNode cfg (some n) s).2.w.ent.topic := by
  have rule : NodeRule cfg n fun t => Reached cfg s t ∧ Matched cfg t.w.ent ∧
      Thinning (ofNode Topic.ownerNode n) s.w.ent.topic t.w.ent.topic := by
    apply reached_with hn
    · intro t i wf hn h hi own
      refine ⟨rmwDestroyPublisher_matched wf h.1 hn hi, ?_⟩
      rw [(rmwDestroyPublisher_effect wf hn hi).1.ent]
      exact TwoObjects.publisher.destroyed_thinning h.1.ledger h.1.publisher h.2 hi own
    · intro t i wf hn h hi own
      refine ⟨rmwDestroySubscription_matched wf h.1 hn hi, ?_⟩
      rw [(rmwDestroySubscription_effect wf hn hi).1.ent]
      exact TwoObjects.subscription.destroyed_thinning h.1.ledger h.1.subscription h.2 hi own
    · intro t i wf hn h hi own
      rw [(rmwDestroyService_effect wf hn hi).1.ent]
      exact ⟨h.1.of_endpoints rfl rfl rfl, h.2⟩
    · intro t i wf hn h hi own
      rw [(rmwDestroyClient_effect wf hn hi).1.ent]
      exact ⟨h.1.of_endpoints rfl rfl rfl, h.2⟩
  obtain ⟨t, ret, ⟨end_, matched, thinning⟩, bare, -, e⟩ :=
    rule.run ⟨⟨.refl, wf, rfl, rfl, rfl⟩, before, .refl _ _⟩
  have hn' := rule.node t ⟨end_, matched, thinning⟩
  rw [e, (destroyParticipant_effect end_.wf hn' ret).ent]
  exact thinning.thinned fun x hx => bare.topic matched hx

/-! ## The result -/

theorem destroyParticipant_ret {n : Nat} {ret : RmwRet} (ok : ret ≠ .error) (s : State) :
    (destroyParticipant cfg n n ret s).1 ≠ .error := by
  rw [destroyParticipant, Prog.bind_run, Prog.bind_run, Prog.bind_run, Prog.pure_run]
  dsimp only
  split
  · exact ok
  · simp

/-- `rmw_destroy_node` on a node in use reports no error. -/
theorem rmwDestroyNode_ret {s : State} (wf : Wf cfg s) {n : Nat} (hn : n ∈ s.w.ent.node.elements) :
    (rmwDestroyNode cfg (some n) s).1 ≠ .error := by
  obtain ⟨t, ret, -, -, ok, e⟩ := (reached_rule hn).run ⟨.refl, wf, rfl, rfl, rfl⟩
  rw [e]
  exact destroyParticipant_ret ok t

/-! ## The statement -/

/-- No element in use belongs to the node, and those of the others are in use as before. -/
structure Swept (ownerNode : β → Option Nat) (n : Nat) (t u : Slots β) : Prop where
  gone : ∀ i ∈ u.elements, ownerNode (u.custom i) ≠ some n
  order : u.elements = t.elements.filter fun i => ownerNode (t.custom i) != some n
  fields : ∀ i ∈ t.elements, ownerNode (t.custom i) ≠ some n →
    i ∈ u.elements ∧ u.custom i = t.custom i

/-- The node has been destroyed with everything that belongs to it. -/
structure NodeRemoved (n : Nat) (e e' : Entities) : Prop where
  publisher : Swept (·.ownerNode) n e.publisher e'.publisher
  subscription : Swept (·.ownerNode) n e.subscription e'.subscription
  service : Swept (·.ownerNode) n e.service e'.service
  client : Swept (·.ownerNode) n e.client e'.client
  topic : Swept (·.ownerNode) n e.topic e'.topic
  free : n ∈ e'.node.memory.free
  nodes : e'.node.elements = e.node.elements.erase n
  others : ∀ m, m ≠ n → e'.node.custom m = e.node.custom m

theorem Thinned.swept {ownerNode : β → Option Nat} {n : Nat} {t u : Slots β}
    (h : Thinned (ofNode ownerNode n) t u) : Swept ownerNode n t u := by
  have mem : ∀ i, i ∈ u.elements ↔ i ∈ t.elements ∧ ownerNode (t.custom i) ≠ some n := fun i => by
    rw [h.elements, List.mem_filter]
    simp
  constructor
  · intro i hi
    rw [h.custom i hi]
    exact ((mem i).1 hi).2
  · exact h.elements
  · intro i hi other
    have left := (mem i).2 ⟨hi, other⟩
    exact ⟨left, h.custom i left⟩

/-- **`rmw_destroy_node`**, on a node in use. -/
theorem rmwDestroyNode_sweeps {s : State} (wf : Wf cfg s) (before : Matched cfg s.w.ent) {n : Nat}
    (hn : n ∈ s.w.ent.node.elements) :
    NodeRemoved n s.w.ent (rmwDestroyNode cfg (some n) s).2.w.ent := by
  obtain ⟨-, wf', -, -, erased⟩ := rmwDestroyNode_run wf hn
  have thinned := rmwDestroyNode_thinned wf hn
  have size : (rmwDestroyNode cfg (some n) s).2.w.ent.node.memory.size = s.w.ent.node.memory.size := by
    obtain ⟨t, ret, reached, -, -, e⟩ := (reached_rule hn).run ⟨.refl, wf, rfl, rfl, rfl⟩
    rw [e, (destroyParticipant_effect reached.wf (reached.node ▸ hn) ret).ent, ← reached.node]
    exact Slots.fini_size _ _ _
  constructor
  · exact thinned.publisher.swept
  · exact thinned.subscription.swept
  · exact thinned.service.swept
  · exact thinned.client.swept
  · exact (rmwDestroyNode_topics wf before hn).swept
  · refine wf'.node.mem_free.2 ⟨size ▸ wf.node.lt hn, fun left => ?_⟩
    have elements : (rmwDestroyNode cfg (some n) s).2.w.ent.node.elements =
      s.w.ent.node.elements.erase n := erased.elements
    rw [elements, wf.node.nodup.mem_erase_iff] at left
    exact left.1 rfl
  · exact erased.elements
  · exact erased.custom

/-- One call that is no creation that fails. -/
theorem step_matched {s : State} (ready : Ready cfg s) (before : Matched cfg s.w.ent) {i : Step}
    (created : (call cfg s i).1 ≠ .handle none) : Matched cfg (step cfg s i).w.ent := by
  rw [call] at created
  rw [step, call]
  split
  · rename_i defined
    rw [if_pos defined] at created
    have wf : Wf cfg (s.enter i) := { ready.wf with }
    exact perform_matched wf before created
  · exact before

/-- **A node is destroyed with all its entities, and with nothing else**: after every run in which no
creation fails, and whatever the agent does during the call. -/
theorem destroying_node_removes_entities (cfg : Config) (is : List Step) (n : Nat)
    (agent : List Answer)
    (created : Runs.Always (step cfg) (fun s i => (call cfg s i).1 ≠ .handle none) State.zero is)
    (live : n ∈ (run cfg is).w.ent.node.elements) :
    let r := call cfg (run cfg is) ⟨.destroyNode (some n), agent⟩
    (∃ ret, r.1 = .ret ret ∧ ret ≠ .error) ∧ NodeRemoved n (run cfg is).w.ent r.2.w.ent := by
  have inv : Ready cfg (run cfg is) ∧ Matched cfg (run cfg is).w.ent :=
    Runs.invariant_exec (I := fun s => Ready cfg s ∧ Matched cfg s.w.ent)
      (fun _ i h g => ⟨(step_path h.1 i).2, step_matched h.1 h.2 g⟩)
      ⟨ready_zero cfg, matched_zero cfg⟩ created
  intro r
  have wf : Wf cfg ((run cfg is).enter ⟨.destroyNode (some n), agent⟩) := { inv.1.wf with }
  have ret := rmwDestroyNode_ret wf live
  exact ⟨⟨_, rfl, ret⟩, rmwDestroyNode_sweeps wf inv.2 live⟩

namespace Small

def createPublisherOf (node : Nat) : Step :=
  ⟨.createPublisher (some node) (some typeSupport) (some ['t']) (some (profile 1 ⟨0, 0⟩)), confirming⟩

/-- Two nodes, with their entities mixed in the lists. -/
def neighbours : List Step :=
  [init 0, createNode 1, createNode 1, createPublisherOf 1, createPublisherOf 0, createServiceOf 0,
    createServiceOf 1]

end Small

/-- The agent confirms nothing while one of two nodes is destroyed. -/
theorem destroying_node_removes_entities_of_neighbour :
    let s := run Small.config Small.neighbours
    let r := call Small.config s ⟨.destroyNode (some 1), []⟩
    (∃ ret, r.1 = .ret ret ∧ ret ≠ .error) ∧ NodeRemoved 1 s.w.ent r.2.w.ent :=
  destroying_node_removes_entities Small.config Small.neighbours 1 [] (by decide +kernel)
    (by decide +kernel)

end RmwMicroxrcedds
