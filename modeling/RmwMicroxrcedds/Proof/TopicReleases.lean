import RmwMicroxrcedds.Proof.Shutdowns

/-!
# The topics that go with a context

Destroying a publisher or subscription destroys the topic it shows, whoever else shows it. So a shutdown takes the
owner away from the topics shown in its context, and leaves the records of all others as they are.
-/

namespace RmwMicroxrcedds
set_option autoImplicit false

variable {cfg : Config} {β : Type}

/-! ## Shown topics -/

/-- An element of the node that is in use shows the topic. -/
def Slots.Shows (t : Slots β) (ownerNode topic : β → Option Nat) (n x : Nat) : Prop :=
  ∃ i ∈ t.elements, ownerNode (t.custom i) = some n ∧ deref (topic (t.custom i)) = x

section Shows

variable {ownerNode topic : β → Option Nat} {t u : Slots β} {n x : Nat}

/-- The elements of other nodes go. -/
theorem Slots.Shows.thinned {mine : β → Bool} (h : Thinned mine t u)
    (others : ∀ b, ownerNode b = some n → mine b = false) :
    u.Shows ownerNode topic n x ↔ t.Shows ownerNode topic n x := by
  have left : ∀ {i}, i ∈ u.elements ↔ i ∈ t.elements ∧ mine (t.custom i) = false := by
    intro i
    rw [h.elements, List.mem_filter, Bool.not_eq_true']
  constructor
  · rintro ⟨i, hi, own, shows⟩
    rw [h.custom i hi] at own shows
    exact ⟨i, (left.1 hi).1, own, shows⟩
  · rintro ⟨i, hi, own, shows⟩
    have hu : i ∈ u.elements := left.2 ⟨hi, others _ own⟩
    refine ⟨i, hu, ?_, ?_⟩
    · rw [h.custom i hu, own]
    · rw [h.custom i hu, shows]

/-- An element of the node goes, with the topic it shows. -/
theorem Slots.Shows.fini [Element β] {size i : Nat} (ok : t.Ok size) (hs : Handles t) (hi : i ∈ t.elements)
    (own : ownerNode (t.custom i) = some n) :
    t.Shows ownerNode topic n x ↔
      x = deref (topic (t.custom i)) ∨ (t.fini id i).Shows ownerNode topic n x := by
  obtain ⟨-, -, elements, custom⟩ := ok.fini hs hi id fun _ => rfl
  have left : ∀ {j}, j ∈ (t.fini id i).elements ↔ j ≠ i ∧ j ∈ t.elements := by
    intro j
    rw [elements, ok.nodup.mem_erase_iff]
  constructor
  · rintro ⟨j, hj, ownJ, shows⟩
    by_cases e : j = i
    · exact .inl (e ▸ shows.symm)
    · refine .inr ⟨j, left.2 ⟨e, hj⟩, ?_, ?_⟩
      · rw [custom j e, ownJ]
      · rw [custom j e, shows]
  · rintro (rfl | ⟨j, hj, ownJ, shows⟩)
    · exact ⟨i, hi, own, rfl⟩
    · obtain ⟨e, hj⟩ := left.1 hj
      rw [custom j e] at ownJ shows
      exact ⟨j, hj, ownJ, shows⟩

end Shows

/-- A publisher or subscription of the node shows the topic. -/
def Entities.NodeShows (e : Entities) (n x : Nat) : Prop :=
  e.publisher.Shows (·.ownerNode) (·.topic) n x ∨ e.subscription.Shows (·.ownerNode) (·.topic) n x

/-- The same of a node of the context. -/
def Entities.ContextShows (e : Entities) (impl : Option Nat) (x : Nat) : Prop :=
  ∃ n ∈ e.node.elements, (e.node.custom n).context = impl ∧ e.NodeShows n x

instance (t : Slots β) (ownerNode topic : β → Option Nat) (n x : Nat) :
    Decidable (t.Shows ownerNode topic n x) := inferInstanceAs (Decidable (∃ i ∈ t.elements, _))

instance (e : Entities) (n x : Nat) : Decidable (e.NodeShows n x) := inferInstanceAs (Decidable (_ ∨ _))

instance (e : Entities) (impl : Option Nat) (x : Nat) : Decidable (e.ContextShows impl x) :=
  inferInstanceAs (Decidable (∃ n ∈ e.node.elements, _))

/-! ## Released topics -/

/-- The topics with the given numbers have lost their owners; the others, and those that had none, are as they
were. -/
structure TopicsFreed (shown : Nat → Prop) (t u : Slots Topic) : Prop where
  kept : ∀ x, (shown x → (t.custom x).ownerNode = none) → u.custom x = t.custom x
  freed : ∀ x, shown x → (u.custom x).ownerNode = none

section Freed

variable {p q : Nat → Prop} {t u v : Slots Topic}

theorem TopicsFreed.refl (t : Slots Topic) : TopicsFreed (fun _ => False) t t := ⟨fun _ _ => rfl, fun _ => False.elim⟩

theorem TopicsFreed.congr (h : TopicsFreed p t u) (same : ∀ x, p x ↔ q x) : TopicsFreed q t u :=
  ⟨fun x unowned => h.kept x fun shown => unowned ((same x).1 shown), fun x shown => h.freed x ((same x).2 shown)⟩

theorem TopicsFreed.trans (h : TopicsFreed p t u) (k : TopicsFreed q u v) :
    TopicsFreed (fun x => p x ∨ q x) t v where
  kept x unowned := by
    have first := h.kept x fun shown => unowned (.inl shown)
    rw [k.kept x fun shown => first ▸ unowned (.inr shown), first]
  freed x shown := by
    by_cases later : q x
    · exact k.freed x later
    · have before := h.freed x (shown.resolve_right later)
      rwa [k.kept x fun shown => absurd shown later]

/-- One topic is destroyed. -/
theorem destroyedTopic_freed (topic : Nat) (e : Entities) :
    TopicsFreed (· = topic) e.topic (destroyedTopic topic e).topic := by
  unfold destroyedTopic
  split
  · rename_i unowned
    exact ⟨fun _ _ => rfl, fun x same => same ▸ unowned⟩
  · rename_i owned
    constructor
    · intro x unowned
      have ne : x ≠ topic := fun same => owned (same ▸ unowned same)
      show (e.topic.finiTopic topic).custom x = _
      rw [Slots.finiTopic, Slots.update_custom_of_ne _ _ ne, Slots.put_custom]
    · rintro x rfl
      show ((e.topic.finiTopic x).custom x).ownerNode = none
      rw [Slots.finiTopic, Slots.update_custom_self]

end Freed

/-! ## The topics of a node -/

/-- The destruction of a node, between two of its entities: the topics shown by those that are gone have lost
their owners. -/
structure NodeFreeing (cfg : Config) (n : Nat) (s₀ s : State) : Prop where
  thinning : NodeThinning cfg n s₀ s
  topics : ∃ shown, TopicsFreed shown s₀.w.ent.topic s.w.ent.topic ∧
    ∀ x, s₀.w.ent.NodeShows n x ↔ shown x ∨ s.w.ent.NodeShows n x

/-- An entity goes whose topic is destroyed. -/
theorem NodeFreeing.step {s₀ s s' : State} {n : Nat} (h : NodeFreeing cfg n s₀ s) (topic : Nat)
    (thinning : NodeThinning cfg n s₀ s') (released : TopicsFreed (· = topic) s.w.ent.topic s'.w.ent.topic)
    (shows : ∀ x, s.w.ent.NodeShows n x ↔ x = topic ∨ s'.w.ent.NodeShows n x) : NodeFreeing cfg n s₀ s' := by
  obtain ⟨shown, topics, left⟩ := h.topics
  refine ⟨thinning, _, topics.trans released, fun x => ?_⟩
  rw [left, shows, or_assoc]

/-- An entity goes that shows none. -/
theorem NodeFreeing.keep {s₀ s s' : State} {n : Nat} (h : NodeFreeing cfg n s₀ s)
    (thinning : NodeThinning cfg n s₀ s') (topic : s'.w.ent.topic = s.w.ent.topic)
    (publisher : s'.w.ent.publisher = s.w.ent.publisher)
    (subscription : s'.w.ent.subscription = s.w.ent.subscription) : NodeFreeing cfg n s₀ s' := by
  obtain ⟨shown, topics, left⟩ := h.topics
  refine ⟨thinning, shown, topic ▸ topics, fun x => ?_⟩
  rw [left, Entities.NodeShows, Entities.NodeShows, publisher, subscription]

theorem freeing_rule {s₀ : State} {n : Nat} (hn : n ∈ s₀.w.ent.node.elements) :
    NodeRule cfg n (NodeFreeing cfg n s₀) where
  wf _ h := h.thinning.reached.wf
  node _ h := (thinning_rule hn).node _ h.thinning
  publisher s i h hi own := by
    have wf := h.thinning.reached.wf
    have hn' := (thinning_rule hn).node _ h.thinning
    have ent := (rmwDestroyPublisher_effect wf hn' hi).1.ent
    have pool : (destroyedPublisher i s.w.ent).publisher = s.w.ent.publisher.fini id i := rfl
    have others : (destroyedPublisher i s.w.ent).subscription = s.w.ent.subscription :=
      destroyedTopic_subscription ..
    refine h.step (deref (s.w.ent.publisher.custom i).topic) ((thinning_rule hn).publisher s i h.thinning hi own) ?_ fun x => ?_
    · rw [ent]
      exact destroyedTopic_freed _ _
    · rw [ent, Entities.NodeShows, Entities.NodeShows, pool, others,
        Slots.Shows.fini wf.publisher wf.publisherHandles hi own, or_assoc]
  subscription s i h hi own := by
    have wf := h.thinning.reached.wf
    have hn' := (thinning_rule hn).node _ h.thinning
    have ent := (rmwDestroySubscription_effect wf hn' hi).1.ent
    have pool : (destroyedSubscription i s.w.ent).subscription = s.w.ent.subscription.fini id i := rfl
    have others : (destroyedSubscription i s.w.ent).publisher = s.w.ent.publisher :=
      destroyedTopic_publisher ..
    refine h.step (deref (s.w.ent.subscription.custom i).topic) ((thinning_rule hn).subscription s i h.thinning hi own) ?_ fun x => ?_
    · rw [ent]
      exact destroyedTopic_freed _ _
    · rw [ent, Entities.NodeShows, Entities.NodeShows, pool, others,
        Slots.Shows.fini wf.subscription wf.subscriptionHandles hi own]
      exact or_left_comm
  service s i h hi own := by
    have ent := (rmwDestroyService_effect h.thinning.reached.wf ((thinning_rule hn).node _ h.thinning) hi).1.ent
    apply h.keep ((thinning_rule hn).service s i h.thinning hi own)
    · rw [ent]
    · rw [ent]
    · rw [ent]
  client s i h hi own := by
    have ent := (rmwDestroyClient_effect h.thinning.reached.wf ((thinning_rule hn).node _ h.thinning) hi).1.ent
    apply h.keep ((thinning_rule hn).client s i h.thinning hi own)
    · rw [ent]
    · rw [ent]
    · rw [ent]

/-- **`rmw_destroy_node`** takes the owners of the topics that the node shows. -/
theorem rmwDestroyNode_freed {s : State} (wf : Wf cfg s) {n : Nat} (hn : n ∈ s.w.ent.node.elements) :
    TopicsFreed (s.w.ent.NodeShows n) s.w.ent.topic (rmwDestroyNode cfg (some n) s).2.w.ent.topic := by
  have begin : NodeFreeing cfg n s s :=
    ⟨⟨⟨.refl, wf, rfl, rfl, rfl⟩, .refl _ _, .refl _ _, .refl _ _, .refl _ _⟩, _, .refl _, fun x => by simp⟩
  obtain ⟨u, ret, h, bare, -, e⟩ := (freeing_rule hn).run begin
  have effect := destroyParticipant_effect h.thinning.reached.wf ((freeing_rule hn).node _ h) ret
  obtain ⟨shown, topics, left⟩ := h.topics
  have none : ∀ x, ¬u.w.ent.NodeShows n x := by
    rintro x (⟨i, hi, own, -⟩ | ⟨i, hi, own, -⟩)
    · have other := bare.publisher i hi
      exact Bool.false_ne_true (other.symm.trans (beq_iff_eq.2 own))
    · have other := bare.subscription i hi
      exact Bool.false_ne_true (other.symm.trans (beq_iff_eq.2 own))
  rw [e, effect.ent]
  refine topics.congr fun x => ?_
  rw [left, or_iff_left (none x)]

/-! ## The topics of a context -/

/-- The nodes that are left show what they showed. -/
theorem ContextThinning.shows {impl : Option Nat} {gone : List Nat} {s₀ s : State}
    (h : ContextThinning cfg impl gone s₀ s) {n x : Nat} (stays : n ∉ gone) :
    s.w.ent.NodeShows n x ↔ s₀.w.ent.NodeShows n x := by
  have others : ∀ node, node = some n → (gone.any fun m => node == some m) = false := by
    rintro node rfl
    rw [List.any_eq_false]
    intro m hm e
    exact stays (Option.some.inj (eq_of_beq e) ▸ hm)
  rw [Entities.NodeShows, Entities.NodeShows,
    Slots.Shows.thinned h.entities.publisher fun b => others b.ownerNode,
    Slots.Shows.thinned h.entities.subscription fun b => others b.ownerNode]

theorem destroyNodes_freed {s : State} (wf : Wf cfg s) (impl : Option Nat) :
    let r := destroyAll .node (fun n => n.context == impl) (fun i => rmwDestroyNode cfg (some i))
      (fun _ => false) .ok s
    TopicsFreed (s.w.ent.ContextShows impl) s.w.ent.topic r.2.w.ent.topic := by
  intro r
  obtain ⟨-, ⟨gone, h, sub, topics⟩, vacant⟩ := destroyAll_rule .node
    (fun n => n.context == impl) (fun i => rmwDestroyNode cfg (some i)) (fun _ => false)
    (J := fun t => ∃ gone, ContextThinning cfg impl gone s t ∧
      t.w.ent.node.elements ⊆ s.w.ent.node.elements ∧
      TopicsFreed (fun x => ∃ n ∈ gone, s.w.ent.NodeShows n x) s.w.ent.topic t.w.ent.topic)
    (fun t ⟨_, h, _⟩ => h.wf.node)
    (fun t n ⟨gone, h, sub, topics⟩ hn own => by
      obtain ⟨-, -, -, -, erased⟩ := rmwDestroyNode_run h.wf hn
      refine ⟨rfl, ⟨n :: gone, h.destroy sub hn own, fun m hm => ?_, ?_⟩, erased⟩
      · rw [show (rmwDestroyNode cfg (some n) t).2.w.ent.node.elements = _ from erased.elements] at hm
        exact sub (List.mem_of_mem_erase hm)
      · have fresh : n ∉ gone := fun mem => ((h.left n).1 mem).2 hn
        refine (topics.trans (rmwDestroyNode_freed h.wf hn)).congr fun x => ?_
        rw [h.shows fresh, List.exists_mem_cons_iff, or_comm])
    .ok (s := s) ⟨[], ⟨wf, rfl, .refl _ _, by simp, by simp, .refl _⟩, fun _ => id,
      (TopicsFreed.refl _).congr fun x => by simp⟩
  have node := h.node.thinned vacant
  refine topics.congr fun x => ?_
  constructor
  · rintro ⟨n, hn, shows⟩
    exact ⟨n, ((h.left n).1 hn).1, h.mine n hn, shows⟩
  · rintro ⟨n, hn, own, shows⟩
    refine ⟨n, (h.left n).2 ⟨hn, fun left => ?_⟩, shows⟩
    rw [node.elements, List.mem_filter] at left
    simp [own] at left

/-- **`rmw_shutdown`** takes the owners of the topics that its context shows. -/
theorem rmwShutdown_freed {s : State} (wf : Wf cfg s) (context : Nat) :
    TopicsFreed (s.w.ent.ContextShows (some context)) s.w.ent.topic
      (rmwShutdown cfg (some context) s).2.w.ent.topic := by
  have ent : (rmwShutdown cfg (some context) s).2.w.ent =
      (rmwContextFini cfg (some context) s).2.w.ent := flushLoop_ent _ _ _
  rw [ent, rmwContextFini_ent]
  exact destroyNodes_freed wf (some context)

end RmwMicroxrcedds
