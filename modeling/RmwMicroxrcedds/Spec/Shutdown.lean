import RmwMicroxrcedds.Proof.TopicReleases

/-!
# Shutting down one of several contexts

The entities of the other contexts keep their places and contents. The pool of static buffers has no
notion of a context: a shutdown empties it. And a topic belongs to whoever shows it: where a failed creation has
released the topic of another entity, two contexts can show one topic, and the shutdown of either takes it away.
-/

namespace RmwMicroxrcedds
set_option autoImplicit false

variable {cfg : Config}

/-- An entity in use that belongs to an open context other than `c`. -/
def Entities.OfOther (e : Entities) (c : Nat) (o : Owner) : Prop :=
  e.Alive o ∧ ∃ c' ∈ e.session.elements, c' ≠ c ∧ e.ownerContext o = some c'

instance (e : Entities) (c : Nat) (o : Owner) : Decidable (e.OfOther c o) :=
  inferInstanceAs (Decidable (_ ∧ _))

/-- An open context other than `c` shows the topic. -/
def Entities.OtherShows (e : Entities) (c x : Nat) : Prop :=
  ∃ c' ∈ e.session.elements, c' ≠ c ∧ e.ContextShows (some c') x

instance (e : Entities) (c x : Nat) : Decidable (e.OtherShows c x) :=
  inferInstanceAs (Decidable (∃ c' ∈ e.session.elements, _))

/-- The messages held for an entity, in list order. -/
def Buffers.messages (b : Buffers) (o : Owner) : List StaticInputBuffer := (b.ofOwner o).map b.slot

/-- What a shutdown of the context `c` is to do. -/
structure ShutDown (cfg : Config) (c : Nat) (s t : State) : Prop where
  /-- the session goes back to its pool -/
  session : t.w.ent.session.elements = s.w.ent.session.elements.erase c
  /-- and so do its nodes and their entities; those of the others stay as they are -/
  nodes : Thinned (fun n : Node => n.context == some c) s.w.ent.node t.w.ent.node
  entities : EntitiesThinned (s.w.ent.nodeOf (some c)) s.w.ent t.w.ent
  others : ∀ c', t.w.ent.session.custom c' = s.w.ent.session.custom c'
  pools : t.w.ent.session.Ok cfg.maxSessions ∧ t.w.ent.node.Ok cfg.maxNodes ∧
    t.w.ent.publisher.Ok cfg.maxPublishers ∧ t.w.ent.subscription.Ok cfg.maxSubscriptions ∧
    t.w.ent.service.Ok cfg.maxServices ∧ t.w.ent.client.Ok cfg.maxClients
  /-- the topics that the others show keep their records, and so their owners -/
  topics : ∀ x, s.w.ent.OtherShows c x → t.w.ent.topic.custom x = s.w.ent.topic.custom x
  queues : ∀ o, s.w.ent.OfOther c o → t.w.buf.messages o = s.w.buf.messages o

theorem messages_eq_nil {b : Buffers} {o : Owner} :
    b.messages o = [] ↔ ∀ i ∈ b.queue, (b.slot i).owner ≠ some o := by
  rw [Buffers.messages, List.map_eq_nil_iff, List.eq_nil_iff_forall_not_mem]
  simp only [Buffers.mem_ofOwner, not_and]

/-- Two open contexts with a node each, and a subscription for the node of the second. -/
def Small.twoContexts : List Step :=
  [Small.init 0, Small.init 0, Small.createNode 1, Small.createNode 0,
    Small.createSubscription 0 (Small.profile 1 ⟨0, 0⟩)]

end RmwMicroxrcedds
