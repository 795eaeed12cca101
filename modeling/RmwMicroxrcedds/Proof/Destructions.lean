import RmwMicroxrcedds.Proof.Creations

/-!
# Destroying nodes and contexts

The loops of `rmw_destroy_node` and `rmw_context_fini` remove elements from the list they walk
along. The rule for them carries any assertion that each single destruction keeps, and says that no
element of what is destroyed is left. `rmw_destroy_node` never stops early, because destroying an
entity in use reports no error.
-/

namespace RmwMicroxrcedds
set_option autoImplicit false

variable {cfg : Config} {β : Type}

/-! ## The loop -/

/-- No element in use satisfies the predicate. -/
def Vacant (k : Kind β) (mine : β → Bool) (e : Entities) : Prop :=
  ∀ j ∈ (k.slots e).elements, mine ((k.slots e).custom j) = false

/-- What destroying the element `i` does to its own pool. -/
structure Erased (k : Kind β) (i : Nat) (s t : State) : Prop where
  elements : (k.slots t.w.ent).elements = (k.slots s.w.ent).elements.erase i
  custom : ∀ j, j ≠ i → (k.slots t.w.ent).custom j = (k.slots s.w.ent).custom j

/-- The elements in use that satisfy the predicate, in their order. -/
def Slots.chosen (t : Slots β) (mine : β → Bool) : List Nat :=
  t.elements.filter fun i => mine (t.custom i)

theorem Slots.mem_chosen {t : Slots β} {mine : β → Bool} {i : Nat} :
    i ∈ t.chosen mine ↔ i ∈ t.elements ∧ mine (t.custom i) = true := List.mem_filter

/-- What one round of the loop has to keep, the value returned last included. -/
structure LoopRule (k : Kind β) (size : Nat) (mine : β → Bool) (destroy : Nat → Prog RmwRet)
    (stop : RmwRet → Bool) (J : RmwRet → State → Prop) : Prop where
  ok : ∀ ret s, J ret s → (k.slots s.w.ent).Ok size
  one : ∀ ret s i is, J ret s → (k.slots s.w.ent).chosen mine = i :: is →
    stop (destroy i s).1 = false ∧ J (destroy i s).1 (destroy i s).2 ∧ Erased k i s (destroy i s).2

section Loop

variable {k : Kind β} {size : Nat} {mine : β → Bool} {destroy : Nat → Prog RmwRet}
  {stop : RmwRet → Bool} {J : RmwRet → State → Prop}

/-- The loop, between the elements it has kept and those it has yet to visit. -/
theorem LoopRule.loop (rule : LoopRule k size mine destroy stop J) (fuel : Nat) {s : State}
    (kept rest : List Nat) (ret : RmwRet) (hs : J ret s)
    (split : (k.slots s.w.ent).elements = kept ++ rest)
    (others : ∀ j ∈ kept, mine ((k.slots s.w.ent).custom j) = false) (bound : rest.length ≤ fuel) :
    let r := destroyLoop k mine destroy stop fuel rest.head? ret s
    r.1.1 = false ∧ J r.1.2 r.2 ∧ Vacant k mine r.2.w.ent := by
  induction fuel generalizing s kept rest ret with
  | zero =>
    have : rest = [] := List.length_eq_zero_iff.1 (by omega)
    subst this
    rw [List.append_nil] at split
    exact ⟨rfl, hs, fun j hj => others j (split ▸ hj)⟩
  | succ fuel ih =>
    cases rest with
    | nil =>
      rw [List.append_nil] at split
      exact ⟨rfl, hs, fun j hj => others j (split ▸ hj)⟩
    | cons i rest =>
      have next := (rule.ok ret s hs).next split
      have elem := (rule.ok ret s hs).elem i
      intro r
      by_cases hm : mine ((k.slots s.w.ent).custom i) = true
      · have none : kept.filter (fun j => mine ((k.slots s.w.ent).custom j)) = [] :=
          List.filter_eq_nil_iff.2 fun j hj => by simp [others j hj]
        have first : (k.slots s.w.ent).chosen mine =
            i :: rest.filter fun j => mine ((k.slots s.w.ent).custom j) := by
          rw [Slots.chosen, split, List.filter_append, none, List.nil_append]
          exact List.filter_cons_of_pos hm
        obtain ⟨go, hJ, erased⟩ := rule.one ret s i _ hs first
        have e : r = destroyLoop k mine destroy stop fuel rest.head? (destroy i s).1
            (destroy i s).2 := by
          simp only [r, List.head?_cons, destroyLoop]
          rw [Prog.get_run, elem, next, if_pos hm, Prog.bind_run, if_neg (by simp [go])]
        have nodup := (rule.ok ret s hs).nodup
        rw [split, List.nodup_append] at nodup
        have fresh : i ∉ kept := fun h => nodup.2.2 i h i (by simp) rfl
        have split' : (k.slots (destroy i s).2.w.ent).elements = kept ++ rest := by
          rw [erased.elements, split, List.erase_append_right _ fresh, List.erase_cons_head]
        rw [e]
        refine ih kept rest _ hJ split' (fun j hj => ?_) (by simpa using bound)
        rw [erased.custom j (by rintro rfl; exact fresh hj)]
        exact others j hj
      · have e : r = destroyLoop k mine destroy stop fuel rest.head? ret s := by
          simp only [r, List.head?_cons, destroyLoop]
          rw [Prog.get_run, elem, next, if_neg hm]
        rw [e]
        refine ih (kept ++ [i]) rest ret hs (by simpa using split) (fun j hj => ?_)
          (by simpa using bound)
        rw [List.mem_append, List.mem_singleton] at hj
        rcases hj with hj | rfl
        · exact others j hj
        · simpa using hm

/-- From the head of the list on, nothing that satisfies the predicate is left. -/
theorem LoopRule.run (rule : LoopRule k size mine destroy stop J) {s : State} (ret : RmwRet)
    (hs : J ret s) :
    let r := destroyAll k mine destroy stop ret s
    r.1.1 = false ∧ J r.1.2 r.2 ∧ Vacant k mine r.2.w.ent := by
  have e : destroyAll k mine destroy stop ret s = destroyLoop k mine destroy stop
      (k.slots s.w.ent).memory.size (k.slots s.w.ent).elements.head? ret s := by
    rw [destroyAll, Prog.get_run, (rule.ok ret s hs).head]
  rw [e]
  exact rule.loop _ [] _ ret hs rfl (by simp) (rule.ok ret s hs).length_le

end Loop

/-- The loops as far as the states are concerned. -/
theorem destroyAll_rule (k : Kind β) {size : Nat} (mine : β → Bool) (destroy : Nat → Prog RmwRet)
    (stop : RmwRet → Bool) {J : State → Prop} (ok : ∀ s, J s → (k.slots s.w.ent).Ok size)
    (one : ∀ s i, J s → i ∈ (k.slots s.w.ent).elements → mine ((k.slots s.w.ent).custom i) = true →
      stop (destroy i s).1 = false ∧ J (destroy i s).2 ∧ Erased k i s (destroy i s).2)
    {s : State} (ret : RmwRet) (hs : J s) :
    let r := destroyAll k mine destroy stop ret s
    r.1.1 = false ∧ J r.2 ∧ Vacant k mine r.2.w.ent := by
  have rule : LoopRule k size mine destroy stop fun _ => J := by
    refine ⟨fun _ => ok, fun _ s i is h first => ?_⟩
    obtain ⟨hi, own⟩ := Slots.mem_chosen.1 (first ▸ List.mem_cons_self)
    exact one s i h hi own
  exact rule.run ret hs

/-! ## Nodes -/

theorem erased_of_fini [Element β] {k : Kind β} {size : Nat} {s t : State} {i : Nat}
    (ok : (k.slots s.w.ent).Ok size) (hs : Handles (k.slots s.w.ent))
    (hi : i ∈ (k.slots s.w.ent).elements) (clear : β → β)
    (keep : ∀ b, Element.handle (clear b) = Element.handle b)
    (e : k.slots t.w.ent = (k.slots s.w.ent).fini clear i) : Erased k i s t := by
  obtain ⟨-, -, elements, others⟩ := ok.fini hs hi clear keep
  exact ⟨e ▸ elements, e ▸ others⟩

/-- The entities of a node, as the loops of `rmw_destroy_node` recognise them. -/
abbrev ofNode (ownerNode : β → Option Nat) (n : Nat) : β → Bool := fun b => ownerNode b == some n

/-- Nothing is left of a node but the node. -/
structure Bare (n : Nat) (e : Entities) : Prop where
  publisher : Vacant .publisher (ofNode (·.ownerNode) n) e
  subscription : Vacant .subscription (ofNode (·.ownerNode) n) e
  service : Vacant .service (ofNode (·.ownerNode) n) e
  client : Vacant .client (ofNode (·.ownerNode) n) e

/-- What single destructions have to keep for `rmw_destroy_node` to keep it until its last step. -/
structure NodeRule (cfg : Config) (n : Nat) (J : State → Prop) : Prop where
  wf : ∀ s, J s → Wf cfg s
  node : ∀ s, J s → n ∈ s.w.ent.node.elements
  publisher : ∀ s i, J s → i ∈ s.w.ent.publisher.elements →
    (s.w.ent.publisher.custom i).ownerNode = some n →
    J (rmwDestroyPublisher cfg (some n) (some i) s).2
  subscription : ∀ s i, J s → i ∈ s.w.ent.subscription.elements →
    (s.w.ent.subscription.custom i).ownerNode = some n →
    J (rmwDestroySubscription cfg (some n) (some i) s).2
  service : ∀ s i, J s → i ∈ s.w.ent.service.elements →
    (s.w.ent.service.custom i).ownerNode = some n →
    J (rmwDestroyService cfg (some n) (some i) s).2
  client : ∀ s i, J s → i ∈ s.w.ent.client.elements →
    (s.w.ent.client.custom i).ownerNode = some n →
    J (rmwDestroyClient cfg (some n) (some i) s).2

/-- The same with the value returned last, for the entities in the order they are visited in. -/
structure ResultRule (cfg : Config) (n : Nat) (J : RmwRet → State → Prop) : Prop where
  wf : ∀ ret s, J ret s → Wf cfg s
  node : ∀ ret s, J ret s → n ∈ s.w.ent.node.elements
  publisher : ∀ ret s i is, J ret s → s.w.ent.publisher.chosen (ofNode (·.ownerNode) n) = i :: is →
    let r := rmwDestroyPublisher cfg (some n) (some i) s
    J r.1 r.2
  subscription : ∀ ret s i is, J ret s → Vacant .publisher (ofNode (·.ownerNode) n) s.w.ent →
    s.w.ent.subscription.chosen (ofNode (·.ownerNode) n) = i :: is →
    let r := rmwDestroySubscription cfg (some n) (some i) s
    J r.1 r.2
  service : ∀ ret s i is, J ret s → Vacant .publisher (ofNode (·.ownerNode) n) s.w.ent →
    Vacant .subscription (ofNode (·.ownerNode) n) s.w.ent →
    s.w.ent.service.chosen (ofNode (·.ownerNode) n) = i :: is →
    let r := rmwDestroyService cfg (some n) (some i) s
    J r.1 r.2
  client : ∀ ret s i is, J ret s → Vacant .publisher (ofNode (·.ownerNode) n) s.w.ent →
    Vacant .subscription (ofNode (·.ownerNode) n) s.w.ent →
    Vacant .service (ofNode (·.ownerNode) n) s.w.ent →
    s.w.ent.client.chosen (ofNode (·.ownerNode) n) = i :: is →
    let r := rmwDestroyClient cfg (some n) (some i) s
    J r.1 r.2

/-- One of the four loops of `rmw_destroy_node`, over a kind whose destroy function succeeds on the
entities in use. -/
theorem destroyEach_rule [Element β] (k : Kind β) {size : Nat} (ownerNode : β → Option Nat) (n : Nat)
    (destroy : Nat → Prog RmwRet) {J : RmwRet → State → Prop}
    (pool : ∀ ret s, J ret s → (k.slots s.w.ent).Ok size ∧ Handles (k.slots s.w.ent))
    (one : ∀ ret s i is, J ret s → i ∈ (k.slots s.w.ent).elements →
      (k.slots s.w.ent).chosen (ofNode ownerNode n) = i :: is →
      (destroy i s).1 ≠ .error ∧ J (destroy i s).1 (destroy i s).2 ∧
        k.slots (destroy i s).2.w.ent = (k.slots s.w.ent).fini id i)
    {s : State} {ret : RmwRet} (hs : J ret s) :
    let r := destroyAll k (ofNode ownerNode n) destroy (fun ret => ret == .error) ret s
    r.1.1 = false ∧ J r.1.2 r.2 ∧ Vacant k (ofNode ownerNode n) r.2.w.ent := by
  have rule : LoopRule k size (ofNode ownerNode n) destroy (fun ret => ret == .error) J := by
    refine ⟨fun ret s h => (pool ret s h).1, fun ret s i is h first => ?_⟩
    have hi := (Slots.mem_chosen.1 (first ▸ List.mem_cons_self)).1
    obtain ⟨go, hJ, fini⟩ := one ret s i is h hi first
    exact ⟨by simpa using go, hJ, erased_of_fini (pool ret s h).1 (pool ret s h).2 hi id (fun _ => rfl) fini⟩
  exact rule.run ret hs

/-- **`rmw_destroy_node`** on a node in use destroys all its entities and ends by destroying the
participant. -/
theorem ResultRule.run {n : Nat} {J : RmwRet → State → Prop} (rule : ResultRule cfg n J) {s : State}
    (hs : J .ok s) : ∃ t ret, J ret t ∧ Bare n t.w.ent ∧
      rmwDestroyNode cfg (some n) s = destroyParticipant cfg n n ret t := by
  have handle : ((Kind.node.slots s.w.ent).custom n).rmwNode =
      ⟨some .eprosimaMicroxrcedds, some n⟩ := (rule.wf _ s hs).nodeHandles.of_mem (rule.node _ s hs)
  obtain ⟨go₁, hJ₁, pubs₁⟩ := destroyEach_rule .publisher (·.ownerNode) n
    (fun i => rmwDestroyPublisher cfg (some n) (some i)) (J := J)
    (fun ret s h => ⟨(rule.wf ret s h).publisher, (rule.wf ret s h).publisherHandles⟩)
    (fun ret s i is h hi first => by
      obtain ⟨effect, ok⟩ := rmwDestroyPublisher_effect (rule.wf ret s h) (rule.node ret s h) hi
      exact ⟨ok, rule.publisher ret s i is h first, by rw [effect.ent]; rfl⟩)
    hs
  set r₁ := destroyAll .publisher (ofNode (·.ownerNode) n)
    (fun i => rmwDestroyPublisher cfg (some n) (some i)) (fun ret => ret == .error) .ok s with h₁
  obtain ⟨go₂, ⟨hJ₂, pubs₂⟩, subs₂⟩ := destroyEach_rule .subscription (·.ownerNode) n
    (fun i => rmwDestroySubscription cfg (some n) (some i))
    (J := fun ret s => J ret s ∧ Vacant .publisher (ofNode (·.ownerNode) n) s.w.ent)
    (fun ret s h => ⟨(rule.wf ret s h.1).subscription, (rule.wf ret s h.1).subscriptionHandles⟩)
    (fun ret s i is h hi first => by
      obtain ⟨effect, ok⟩ := rmwDestroySubscription_effect (rule.wf ret s h.1) (rule.node ret s h.1) hi
      refine ⟨ok, ⟨rule.subscription ret s i is h.1 h.2 first, ?_⟩, by rw [effect.ent]; rfl⟩
      rw [effect.ent, Vacant]
      simp only [Kind.publisher, destroyedSubscription, destroyedTopic_publisher]
      exact h.2)
    ⟨hJ₁, pubs₁⟩
  set r₂ := destroyAll .subscription (ofNode (·.ownerNode) n)
    (fun i => rmwDestroySubscription cfg (some n) (some i)) (fun ret => ret == .error) r₁.1.2 r₁.2
    with h₂
  obtain ⟨go₃, ⟨hJ₃, pubs₃, subs₃⟩, services₃⟩ := destroyEach_rule .service (·.ownerNode) n
    (fun i => rmwDestroyService cfg (some n) (some i))
    (J := fun ret s => J ret s ∧ Vacant .publisher (ofNode (·.ownerNode) n) s.w.ent ∧
      Vacant .subscription (ofNode (·.ownerNode) n) s.w.ent)
    (fun ret s h => ⟨(rule.wf ret s h.1).service, (rule.wf ret s h.1).serviceHandles⟩)
    (fun ret s i is h hi first => by
      obtain ⟨effect, ok⟩ := rmwDestroyService_effect (rule.wf ret s h.1) (rule.node ret s h.1) hi
      exact ⟨ok, ⟨rule.service ret s i is h.1 h.2.1 h.2.2 first, by rw [effect.ent]; exact h.2⟩,
        by rw [effect.ent]; rfl⟩)
    ⟨hJ₂, pubs₂, subs₂⟩
  set r₃ := destroyAll .service (ofNode (·.ownerNode) n)
    (fun i => rmwDestroyService cfg (some n) (some i)) (fun ret => ret == .error) r₂.1.2 r₂.2
    with h₃
  obtain ⟨go₄, ⟨hJ₄, pubs₄, subs₄, services₄⟩, clients₄⟩ := destroyEach_rule .client (·.ownerNode) n
    (fun i => rmwDestroyClient cfg (some n) (some i))
    (J := fun ret s => J ret s ∧ Vacant .publisher (ofNode (·.ownerNode) n) s.w.ent ∧
      Vacant .subscription (ofNode (·.ownerNode) n) s.w.ent ∧
      Vacant .service (ofNode (·.ownerNode) n) s.w.ent)
    (fun ret s h => ⟨(rule.wf ret s h.1).client, (rule.wf ret s h.1).clientHandles⟩)
    (fun ret s i is h hi first => by
      obtain ⟨effect, ok⟩ := rmwDestroyClient_effect (rule.wf ret s h.1) (rule.node ret s h.1) hi
      exact ⟨ok, ⟨rule.client ret s i is h.1 h.2.1 h.2.2.1 h.2.2.2 first, by rw [effect.ent]; exact h.2⟩,
        by rw [effect.ent]; rfl⟩)
    ⟨hJ₃, pubs₃, subs₃, services₃⟩
  set r₄ := destroyAll .client (ofNode (·.ownerNode) n)
    (fun i => rmwDestroyClient cfg (some n) (some i)) (fun ret => ret == .error) r₃.1.2 r₃.2
    with h₄
  refine ⟨r₄.2, r₄.1.2, hJ₄, ⟨pubs₄, subs₄, services₄, clients₄⟩, ?_⟩
  rw [rmwDestroyNode, Prog.bind_run, readElement_run]
  simp only [handle, Option.some.injEq, reduceCtorEq, if_false]
  rw [Prog.bind_run, ← h₁]
  simp only [go₁, Bool.false_eq_true, if_false]
  rw [Prog.bind_run, ← h₂]
  simp only [go₂, Bool.false_eq_true, if_false]
  rw [Prog.bind_run, ← h₃]
  simp only [go₃, Bool.false_eq_true, if_false]
  rw [Prog.bind_run, ← h₄]
  simp only [go₄, Bool.false_eq_true, if_false]

/-- `rmw_destroy_node` keeps what the single destructions keep, and reports no error. -/
theorem NodeRule.run {n : Nat} {J : State → Prop} (rule : NodeRule cfg n J) {s : State} (hs : J s) :
    ∃ t ret, J t ∧ Bare n t.w.ent ∧ ret ≠ .error ∧
      rmwDestroyNode cfg (some n) s = destroyParticipant cfg n n ret t := by
  have chosen : ∀ {γ : Type} {t : Slots γ} {ownerNode : γ → Option Nat} {i : Nat} {is : List Nat},
      t.chosen (ofNode ownerNode n) = i :: is → i ∈ t.elements ∧ ownerNode (t.custom i) = some n := by
    intro γ t ownerNode i is first
    obtain ⟨hi, own⟩ := Slots.mem_chosen.1 (first ▸ List.mem_cons_self)
    exact ⟨hi, eq_of_beq own⟩
  have results : ResultRule cfg n fun ret s => J s ∧ ret ≠ .error :=
    { wf := fun _ s h => rule.wf s h.1
      node := fun _ s h => rule.node s h.1
      publisher := fun _ s i _ h first => by
        obtain ⟨hi, own⟩ := chosen first
        have ok := (rmwDestroyPublisher_effect (rule.wf s h.1) (rule.node s h.1) hi).2
        exact ⟨rule.publisher s i h.1 hi own, ok⟩
      subscription := fun _ s i _ h _ first => by
        obtain ⟨hi, own⟩ := chosen first
        have ok := (rmwDestroySubscription_effect (rule.wf s h.1) (rule.node s h.1) hi).2
        exact ⟨rule.subscription s i h.1 hi own, ok⟩
      service := fun _ s i _ h _ _ first => by
        obtain ⟨hi, own⟩ := chosen first
        have ok := (rmwDestroyService_effect (rule.wf s h.1) (rule.node s h.1) hi).2
        exact ⟨rule.service s i h.1 hi own, ok⟩
      client := fun _ s i _ h _ _ _ first => by
        obtain ⟨hi, own⟩ := chosen first
        have ok := (rmwDestroyClient_effect (rule.wf s h.1) (rule.node s h.1) hi).2
        exact ⟨rule.client s i h.1 hi own, ok⟩ }
  obtain ⟨t, ret, ⟨end_, ok⟩, bare, e⟩ := results.run ⟨hs, by simp⟩
  exact ⟨t, ret, end_, bare, ok, e⟩

/-- The end of `rmw_destroy_node`. -/
theorem destroyParticipant_effect {s : State} (wf : Wf cfg s) {n : Nat}
    (hn : n ∈ s.w.ent.node.elements) (ret : RmwRet) :
    Effect (fun e => { e with node := e.node.fini (fun n => { n with context := none }) n }) s
      (destroyParticipant cfg n n ret s).2 := by
  rw [destroyParticipant, Prog.bind_run, readElement_run, Prog.bind_run]
  have run := runDestruction_frame cfg (deref ((Kind.node.slots s.w.ent).custom n).context)
    (.deleteEntity ((Kind.node.slots s.w.ent).custom n).participantId) s
  set t := (runDestruction cfg (deref ((Kind.node.slots s.w.ent).custom n).context)
    (.deleteEntity ((Kind.node.slots s.w.ent).custom n).participantId) s).2
  have nodes : t.w.ent.node = s.w.ent.node := by rw [run.ent]
  have handles : Handles t.w.ent.node := nodes ▸ wf.nodeHandles
  have inUse : n ∈ t.w.ent.node.elements := nodes ▸ hn
  have fini : Effect _ t (rmwUxrceFiniNodeMemory n t).2 :=
    finiMemory_effect .node (fun n => { n with context := none }) handles inUse
  exact run.trans_effect fini

/-- Releasing a node that owns nothing. -/
theorem finiNode_run {s : State} (wf : Wf cfg s) {n : Nat}
    (unowned : ∀ o, s.Alive o → s.ghost.givenIn o ≠ none → s.w.ent.ownerNode o ≠ some n) :
    let t := (rmwUxrceFiniNodeMemory n s).2
    Path cfg s t ∧ Wf cfg t ∧ t.call = s.call := by
  by_cases hn : n ∈ s.w.ent.node.elements
  · obtain ⟨ok, handles, elements, others⟩ := wf.node.fini wf.nodeHandles hn
      (fun n => { n with context := none }) fun _ => rfl
    have nodup := wf.node.nodup
    set nodes := s.w.ent.node.fini (fun n => { n with context := none }) n with hnodes
    have e : (rmwUxrceFiniNodeMemory n s).2 = s.mapEnt fun e => { e with node := nodes } := by
      rw [rmwUxrceFiniNodeMemory, finiMemory_of_mem .node _ wf.nodeHandles hn]
      rfl
    have wf' : Wf cfg (s.mapEnt fun e => { e with node := nodes }) := { wf with
      node := ok
      nodeHandles := handles
      context := fun m hm => by
        obtain ⟨ne, mem⟩ := (nodup.mem_erase_iff).1 (elements ▸ hm)
        obtain ⟨c, hc, e⟩ := wf.context m mem
        exact ⟨c, hc, (congrArg Node.context (others m ne)).trans e⟩
      owner := fun o alive given => by
        have alive' : s.Alive o := by cases o <;> exact alive
        obtain ⟨m, hm, e⟩ := wf.owner o alive' given
        have ne : m ≠ n := fun h => unowned o alive' given (h ▸ e)
        have hm' : m ∈ nodes.elements := by
          rw [elements, nodup.mem_erase_iff]
          exact ⟨ne, hm⟩
        exact ⟨m, hm', by cases o <;> exact e⟩ }
    rw [e]
    exact ⟨.single ⟨wf, wf', .quiet ⟨rfl, rfl, rfl, rfl, rfl, rfl⟩
      ⟨fun o => by cases o <;> exact Iff.rfl, rfl, rfl, rfl⟩ rfl⟩, wf', rfl⟩
  · have e : (rmwUxrceFiniNodeMemory n s).2 = s := by
      rw [rmwUxrceFiniNodeMemory, finiMemory_of_not_mem .node _ wf.nodeHandles hn]
    rw [e]
    exact ⟨.refl, wf, rfl⟩

theorem Bare.unowned {n : Nat} {s : State} (bare : Bare n s.w.ent) (o : Owner) (alive : s.Alive o) :
    s.w.ent.ownerNode o ≠ some n := by
  cases o with
  | subscription i => exact beq_eq_false_iff_ne.1 (bare.subscription i alive)
  | service i => exact beq_eq_false_iff_ne.1 (bare.service i alive)
  | client i => exact beq_eq_false_iff_ne.1 (bare.client i alive)

theorem destroyParticipant_run {s : State} (wf : Wf cfg s) {n : Nat} (bare : Bare n s.w.ent)
    (ret : RmwRet) :
    let t := (destroyParticipant cfg n n ret s).2
    Path cfg s t ∧ Wf cfg t ∧ t.call = s.call := by
  rw [destroyParticipant, Prog.bind_run, readElement_run, Prog.bind_run]
  have run := runDestruction_frame cfg (deref ((Kind.node.slots s.w.ent).custom n).context)
    (.deleteEntity ((Kind.node.slots s.w.ent).custom n).participantId) s
  obtain ⟨path, wf', benign⟩ := (calm_runDestruction (deref ((Kind.node.slots s.w.ent).custom n).context)
    (.deleteEntity ((Kind.node.slots s.w.ent).custom n).participantId) : Calm cfg _).run s wf
  set t := (runDestruction cfg (deref ((Kind.node.slots s.w.ent).custom n).context)
    (.deleteEntity ((Kind.node.slots s.w.ent).custom n).participantId) s).2
  have bare' : Bare n t.w.ent := run.ent ▸ bare
  obtain ⟨path', wf'', call⟩ := finiNode_run wf' (n := n) fun o alive _ => bare'.unowned o alive
  exact ⟨path.trans path', wf'', call.trans benign.call⟩

/-- The part of the state that destroying the entities of nodes leaves alone. -/
structure Reached (cfg : Config) (s₀ : State) (s : State) : Prop where
  path : Path cfg s₀ s
  wf : Wf cfg s
  call : s.call = s₀.call
  node : s.w.ent.node = s₀.w.ent.node
  session : s.w.ent.session = s₀.w.ent.session

theorem destroyedTopic_node (topic : Nat) (e : Entities) :
    (destroyedTopic topic e).node = e.node := by
  unfold destroyedTopic
  split <;> rfl

theorem destroyedTopic_session (topic : Nat) (e : Entities) :
    (destroyedTopic topic e).session = e.session := by
  unfold destroyedTopic
  split <;> rfl

theorem Reached.sound {α : Type} {s₀ s : State} (h : Reached cfg s₀ s) {p : Prog α}
    (sound : Sound cfg p) (node : (p s).2.w.ent.node = s.w.ent.node)
    (session : (p s).2.w.ent.session = s.w.ent.session) : Reached cfg s₀ (p s).2 :=
  have ⟨path, wf, call⟩ := sound.run s h.wf
  ⟨h.path.trans path, wf, call.trans h.call, node.trans h.node, session.trans h.session⟩

theorem reached_rule {s₀ : State} {n : Nat} (hn : n ∈ s₀.w.ent.node.elements) :
    NodeRule cfg n (Reached cfg s₀) where
  wf _ h := h.wf
  node _ h := h.node ▸ hn
  publisher _ _ h hi _ :=
    have ⟨effect, _⟩ := rmwDestroyPublisher_effect h.wf (h.node ▸ hn) hi
    h.sound (calm_rmwDestroyPublisher _ _).sound
      (by rw [effect.ent]; exact destroyedTopic_node _ _)
      (by rw [effect.ent]; exact destroyedTopic_session _ _)
  subscription _ _ h hi _ :=
    have ⟨effect, _⟩ := rmwDestroySubscription_effect h.wf (h.node ▸ hn) hi
    h.sound (rmwDestroySubscription_sound _ _)
      (by rw [effect.ent]; exact destroyedTopic_node _ _)
      (by rw [effect.ent]; exact destroyedTopic_session _ _)
  service _ _ h hi _ :=
    have ⟨effect, _⟩ := rmwDestroyService_effect h.wf (h.node ▸ hn) hi
    h.sound (rmwDestroyService_sound _ _) (by rw [effect.ent]) (by rw [effect.ent])
  client _ _ h hi _ :=
    have ⟨effect, _⟩ := rmwDestroyClient_effect h.wf (h.node ▸ hn) hi
    h.sound (rmwDestroyClient_sound _ _) (by rw [effect.ent]) (by rw [effect.ent])

/-- The rule with an assertion that single destructions keep. -/
theorem reached_with {s₀ : State} {n : Nat} {P : State → Prop} (hn : n ∈ s₀.w.ent.node.elements)
    (publisher : ∀ s i, Wf cfg s → n ∈ s.w.ent.node.elements → P s → i ∈ s.w.ent.publisher.elements →
      (s.w.ent.publisher.custom i).ownerNode = some n →
      P (rmwDestroyPublisher cfg (some n) (some i) s).2)
    (subscription : ∀ s i, Wf cfg s → n ∈ s.w.ent.node.elements → P s →
      i ∈ s.w.ent.subscription.elements → (s.w.ent.subscription.custom i).ownerNode = some n →
      P (rmwDestroySubscription cfg (some n) (some i) s).2)
    (service : ∀ s i, Wf cfg s → n ∈ s.w.ent.node.elements → P s → i ∈ s.w.ent.service.elements →
      (s.w.ent.service.custom i).ownerNode = some n → P (rmwDestroyService cfg (some n) (some i) s).2)
    (client : ∀ s i, Wf cfg s → n ∈ s.w.ent.node.elements → P s → i ∈ s.w.ent.client.elements →
      (s.w.ent.client.custom i).ownerNode = some n → P (rmwDestroyClient cfg (some n) (some i) s).2) :
    NodeRule cfg n fun s => Reached cfg s₀ s ∧ P s := by
  have reached : NodeRule cfg n (Reached cfg s₀) := reached_rule hn
  constructor
  · exact fun s h => h.1.wf
  · exact fun s h => reached.node s h.1
  · exact fun s i h hi own =>
      ⟨reached.publisher s i h.1 hi own, publisher s i h.1.wf (reached.node s h.1) h.2 hi own⟩
  · exact fun s i h hi own =>
      ⟨reached.subscription s i h.1 hi own, subscription s i h.1.wf (reached.node s h.1) h.2 hi own⟩
  · exact fun s i h hi own =>
      ⟨reached.service s i h.1 hi own, service s i h.1.wf (reached.node s h.1) h.2 hi own⟩
  · exact fun s i h hi own =>
      ⟨reached.client s i h.1 hi own, client s i h.1.wf (reached.node s h.1) h.2 hi own⟩

/-- `rmw_destroy_node` on a node in use takes exactly that node away. -/
theorem rmwDestroyNode_run {s : State} (wf : Wf cfg s) {n : Nat} (hn : n ∈ s.w.ent.node.elements) :
    let t := (rmwDestroyNode cfg (some n) s).2
    Path cfg s t ∧ Wf cfg t ∧ t.call = s.call ∧ t.w.ent.session = s.w.ent.session ∧
      Erased .node n s t := by
  obtain ⟨u, ret, reached, bare, -, e⟩ := (reached_rule hn).run ⟨.refl, wf, rfl, rfl, rfl⟩
  obtain ⟨path, wf', call⟩ := destroyParticipant_run reached.wf bare ret
  have effect := destroyParticipant_effect reached.wf (reached.node ▸ hn) ret
  rw [e]
  refine ⟨reached.path.trans path, wf', call.trans reached.call, ?_, ?_⟩
  · rw [effect.ent]
    exact reached.session
  · refine erased_of_fini wf.node wf.nodeHandles hn (fun n => { n with context := none })
      (fun _ => rfl) ?_
    rw [effect.ent]
    simp only [Kind.node, reached.node]

/-- What `rmw_destroy_node` refuses. -/
theorem rmwDestroyNode_refused {s : State} (wf : Wf cfg s) {node : Option Nat}
    (h : ∀ n, node = some n → n ∉ s.w.ent.node.elements) :
    rmwDestroyNode cfg node s = (.error, s) := by
  cases node with
  | none => rfl
  | some n =>
    have handle : ((Kind.node.slots s.w.ent).custom n).rmwNode = ⟨none, none⟩ :=
      wf.nodeHandles.of_not_mem (h n rfl)
    rw [rmwDestroyNode, Prog.bind_run, readElement_run]
    simp only [handle, reduceCtorEq, if_false]
    rfl

/-- `rmw_destroy_node` works on a node in use or does nothing. -/
theorem rmwDestroyNode_cases {s : State} (wf : Wf cfg s) (node : Option Nat) :
    (∃ n, node = some n ∧ n ∈ s.w.ent.node.elements) ∨ rmwDestroyNode cfg node s = (.error, s) := by
  by_cases h : ∃ n, node = some n ∧ n ∈ s.w.ent.node.elements
  · exact .inl h
  · exact .inr (rmwDestroyNode_refused wf fun n e hn => h ⟨n, e, hn⟩)

theorem rmwDestroyNode_sound (node : Option Nat) : Sound cfg (rmwDestroyNode cfg node) :=
  ⟨fun s wf => by
    rcases rmwDestroyNode_cases wf node with ⟨n, rfl, hn⟩ | same
    · obtain ⟨path, wf', call, -⟩ := rmwDestroyNode_run wf hn
      exact ⟨path, wf', call⟩
    · rw [same]
      exact ⟨.refl, wf, rfl⟩⟩

/-! ## Handles that are not in use -/

/-- A node and an entity of the kind, both in use. -/
def BothInUse (k : Kind β) (s : State) (node entity : Option Nat) : Prop :=
  ∃ n i, node = some n ∧ entity = some i ∧ n ∈ s.w.ent.node.elements ∧ i ∈ (k.slots s.w.ent).elements

section Refused

variable {s : State} (wf : Wf cfg s) (node : Option Nat)

/-- A destroy function works on a node and an entity in use or does nothing. -/
theorem destroyChecks_cases [Element β] (k : Kind β) (hs : Handles (k.slots s.w.ent))
    (nodes : Handles s.w.ent.node) (entity : Option Nat) :
    BothInUse k s node entity ∨ ∀ rest : Option (Nat × Nat) → Prog RmwRet,
      rest none = Pure.pure .error → (destroyChecks k node entity >>= rest) s = (.error, s) := by
  by_cases h : BothInUse k s node entity
  · exact .inl h
  · refine .inr fun rest none => ?_
    rw [Prog.bind_run, destroyChecks_none k nodes hs h, none, Prog.pure_run]

include wf

theorem rmwDestroyPublisher_cases (publisher : Option Nat) :
    BothInUse .publisher s node publisher ∨ rmwDestroyPublisher cfg node publisher s = (.error, s) :=
  (destroyChecks_cases node .publisher wf.publisherHandles wf.nodeHandles publisher).imp_right
    fun refused => refused _ rfl

theorem rmwDestroySubscription_cases (subscription : Option Nat) :
    BothInUse .subscription s node subscription ∨
      rmwDestroySubscription cfg node subscription s = (.error, s) :=
  (destroyChecks_cases node .subscription wf.subscriptionHandles wf.nodeHandles subscription).imp_right
    fun refused => refused _ rfl

theorem rmwDestroyService_cases (service : Option Nat) :
    BothInUse .service s node service ∨ rmwDestroyService cfg node service s = (.error, s) :=
  (destroyChecks_cases node .service wf.serviceHandles wf.nodeHandles service).imp_right
    fun refused => refused _ rfl

theorem rmwDestroyClient_cases (client : Option Nat) :
    BothInUse .client s node client ∨ rmwDestroyClient cfg node client s = (.error, s) :=
  (destroyChecks_cases node .client wf.clientHandles wf.nodeHandles client).imp_right
    fun refused => refused _ rfl

end Refused

/-! ## Contexts -/

/-- The node loop of `rmw_context_fini`. -/
theorem destroyNodes_run {s : State} (wf : Wf cfg s) (impl : Option Nat) :
    let r := destroyAll .node (fun n => n.context == impl) (fun i => rmwDestroyNode cfg (some i))
      (fun _ => false) .ok s
    Path cfg s r.2 ∧ Wf cfg r.2 ∧ r.2.call = s.call ∧ r.2.w.ent.session = s.w.ent.session ∧
      Vacant .node (fun n => n.context == impl) r.2.w.ent := by
  obtain ⟨-, ⟨path, wf', call, session⟩, vacant⟩ := destroyAll_rule .node
    (fun n => n.context == impl) (fun i => rmwDestroyNode cfg (some i)) (fun _ => false)
    (J := fun t => Path cfg s t ∧ Wf cfg t ∧ t.call = s.call ∧ t.w.ent.session = s.w.ent.session)
    (fun t h => h.2.1.node)
    (fun t n h hn _ =>
      have ⟨path, wf', call, session, erased⟩ := rmwDestroyNode_run h.2.1 hn
      ⟨rfl, ⟨h.1.trans path, wf', call.trans h.2.2.1, session.trans h.2.2.2⟩, erased⟩)
    .ok ⟨.refl, wf, rfl, rfl⟩
  exact ⟨path, wf', call, session, vacant⟩

end RmwMicroxrcedds
