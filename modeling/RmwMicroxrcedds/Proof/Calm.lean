import RmwMicroxrcedds.Proof.Micro

/-!
# Programs that leave the entities alone

A program is calm when it keeps the invariant, is a path of atomic actions, and changes neither
which nodes, subscriptions, services, clients and sessions are in use nor who owns them. The
running of a session is calm whatever the agent sends, because a callback only touches buffers; so
is everything about topics, publishers, takes and waits. Calm programs compose.
-/

namespace RmwMicroxrcedds
set_option autoImplicit false

open Triples

/-- What a calm program leaves as it is. -/
structure Benign (s t : State) : Prop where
  session : t.w.ent.session.elements = s.w.ent.session.elements
  node : t.w.ent.node.elements = s.w.ent.node.elements
  subscription : t.w.ent.subscription.elements = s.w.ent.subscription.elements
  service : t.w.ent.service.elements = s.w.ent.service.elements
  client : t.w.ent.client.elements = s.w.ent.client.elements
  context : ∀ n, (t.w.ent.node.custom n).context = (s.w.ent.node.custom n).context
  ownerNode : ∀ o, t.w.ent.ownerNode o = s.w.ent.ownerNode o
  incarnation : t.ghost.incarnation = s.ghost.incarnation
  givenIn : t.ghost.givenIn = s.ghost.givenIn
  epoch : t.ghost.epoch = s.ghost.epoch
  call : t.call = s.call

theorem Benign.refl (s : State) : Benign s s :=
  ⟨rfl, rfl, rfl, rfl, rfl, fun _ => rfl, fun _ => rfl, rfl, rfl, rfl, rfl⟩

theorem Benign.trans {s t u : State} (h : Benign s t) (k : Benign t u) : Benign s u where
  session := k.session.trans h.session
  node := k.node.trans h.node
  subscription := k.subscription.trans h.subscription
  service := k.service.trans h.service
  client := k.client.trans h.client
  context n := (k.context n).trans (h.context n)
  ownerNode o := (k.ownerNode o).trans (h.ownerNode o)
  incarnation := k.incarnation.trans h.incarnation
  givenIn := k.givenIn.trans h.givenIn
  epoch := k.epoch.trans h.epoch
  call := k.call.trans h.call

/-- The same entities are in use. -/
theorem Benign.alive {s t : State} (h : Benign s t) (o : Owner) : t.Alive o ↔ s.Alive o := by
  cases o <;> simp [State.Alive, Entities.Alive, h.subscription, h.service, h.client]

theorem Benign.sameOwners {s t : State} (h : Benign s t) : SameOwners s t :=
  ⟨h.alive, h.incarnation, h.givenIn, h.epoch⟩

variable {cfg : Config} {α β : Type}

/-! ## Runs of composed programs -/

theorem Prog.bind_run (p : Prog α) (f : α → Prog β) (s : State) :
    (p >>= f) s = f (p s).1 (p s).2 := rfl

theorem Prog.pure_run (a : α) (s : State) : (Pure.pure a : Prog α) s = (a, s) := rfl

theorem Prog.get_run (f : State → Prog β) (s : State) : (MonadState.get >>= f) s = f s s := rfl

theorem Prog.modify_run (f : State → State) (s : State) :
    (modify f : Prog Unit) s = ((), f s) := rfl

theorem readElement_run (k : Kind β) (i : Nat) (s : State) :
    readElement k i s = ((k.slots s.w.ent).custom i, s) := rfl

/-! ## Calm programs -/

/-- A calm program. -/
structure Calm (cfg : Config) (p : Prog α) : Prop where
  run : ∀ s, Wf cfg s → Path cfg s (p s).2 ∧ Wf cfg (p s).2 ∧ Benign s (p s).2

theorem Calm.pure {a : α} : Calm cfg (Pure.pure a) := ⟨fun s wf => ⟨.refl, wf, .refl s⟩⟩

/-- Calm programs compose. -/
theorem Calm.bind {p : Prog α} {f : α → Prog β} (hp : Calm cfg p) (hf : ∀ a, Calm cfg (f a)) :
    Calm cfg (p >>= f) := ⟨fun s wf =>
  have ⟨path, wf', benign⟩ := hp.run s wf
  have ⟨path', wf'', benign'⟩ := (hf _).run _ wf'
  ⟨path.trans path', wf'', benign.trans benign'⟩⟩

theorem Calm.ite {c : Prop} [Decidable c] {p q : Prog α} (hp : Calm cfg p) (hq : Calm cfg q) :
    Calm cfg (if c then p else q) := by
  split
  · exact hp
  · exact hq

theorem Calm.get {f : State → Prog β} (h : ∀ s, Calm cfg (f s)) :
    Calm cfg (MonadState.get >>= f) := ⟨fun s => (h s).run s⟩

/-- A change of state made of calm atomic actions. -/
theorem Calm.path {f : State → State}
    (h : ∀ s, Wf cfg s → Path cfg s (f s) ∧ Wf cfg (f s) ∧ Benign s (f s)) :
    Calm cfg (modify f : Prog Unit) := ⟨h⟩

/-- A calm atomic action. -/
theorem Calm.step {f : State → State}
    (h : ∀ s, Wf cfg s → Wf cfg (f s) ∧ Benign s (f s) ∧ Micro cfg s (f s)) :
    Calm cfg (modify f : Prog Unit) := .path fun s wf =>
  have ⟨wf', benign, micro⟩ := h s wf
  ⟨.single ⟨wf, wf', micro⟩, wf', benign⟩

/-- Reading is calm. -/
theorem calm_readElement (k : Kind β) (i : Nat) : Calm cfg (readElement k i) :=
  Calm.get fun _ => Calm.pure

theorem calm_contextOf (node : Nat) : Calm cfg (contextOf node) :=
  (calm_readElement .node node).bind fun _ => Calm.pure

/-- What happens outside the entities is benign. -/
theorem Benign.of_ent {s t : State} (ent : t.w.ent = s.w.ent)
    (incarnation : t.ghost.incarnation = s.ghost.incarnation)
    (givenIn : t.ghost.givenIn = s.ghost.givenIn) (epoch : t.ghost.epoch = s.ghost.epoch)
    (call : t.call = s.call) : Benign s t where
  session := by rw [ent]
  node := by rw [ent]
  subscription := by rw [ent]
  service := by rw [ent]
  client := by rw [ent]
  context _ := by rw [ent]
  ownerNode _ := by rw [ent]
  incarnation := incarnation
  givenIn := givenIn
  epoch := epoch
  call := call

/-- The invariant speaks of the entities, of the buffer pool and of the assigned ids. -/
theorem Wf.of_ent {s t : State} (wf : Wf cfg s) (ent : t.w.ent = s.w.ent)
    (givenIn : t.ghost.givenIn = s.ghost.givenIn) (buf : t.w.buf.Ok cfg.maxHistory) :
    Wf cfg t where
  session := ent ▸ wf.session
  node := ent ▸ wf.node
  publisher := ent ▸ wf.publisher
  subscription := ent ▸ wf.subscription
  service := ent ▸ wf.service
  client := ent ▸ wf.client
  guardCondition := ent ▸ wf.guardCondition
  staticBuffer := buf
  nodeHandles := ent ▸ wf.nodeHandles
  publisherHandles := ent ▸ wf.publisherHandles
  subscriptionHandles := ent ▸ wf.subscriptionHandles
  serviceHandles := ent ▸ wf.serviceHandles
  clientHandles := ent ▸ wf.clientHandles
  guardHandles := ent ▸ wf.guardHandles
  context := ent ▸ wf.context
  owner := by
    rw [ent, givenIn]
    exact wf.owner

/-- Recording what needs no change of state. -/
theorem calm_record (act : Act) (neutral : act.Neutral) :
    Calm cfg (modify (·.record act) : Prog Unit) :=
  Calm.step fun _ wf => ⟨{ wf with }, .of_ent rfl rfl rfl rfl rfl, .note act neutral⟩

/-! ## Changes of the entities -/

/-- A calm change of the entities is an atomic action. -/
theorem Benign.micro {s : State} {f : Entities → Entities} (h : Benign s (s.mapEnt f)) :
    Micro cfg s (s.mapEnt f) := .quiet ⟨rfl, rfl, rfl, rfl, rfl, rfl⟩ h.sameOwners rfl

/-- The clauses of the invariant about owners survive a calm change. -/
theorem Wf.owner_of_benign {s t : State} (wf : Wf cfg s) (h : Benign s t) :
    ∀ o, t.w.ent.Alive o → t.ghost.givenIn o ≠ none →
      ∃ n ∈ t.w.ent.node.elements, t.w.ent.ownerNode o = some n := fun o alive given => by
  rw [h.node, h.ownerNode]
  exact wf.owner o ((h.alive o).1 alive) (h.givenIn ▸ given)

theorem Wf.context_of_benign {s t : State} (wf : Wf cfg s) (h : Benign s t) :
    ∀ n ∈ t.w.ent.node.elements,
      ∃ c ∈ t.w.ent.session.elements, (t.w.ent.node.custom n).context = some c := fun n hn => by
  rw [h.session, h.context]
  exact wf.context n (h.node ▸ hn)

/-- A field that a write keeps is the same in every element. -/
theorem Slots.update_keep {γ : Type} (t : Slots β) (i : Nat) {f : β → β} {field : β → γ}
    (keep : ∀ b, field (f b) = field b) (j : Nat) :
    field ((t.update i f).custom j) = field (t.custom j) := by
  by_cases h : j = i
  · subst h
    rw [Slots.update_custom_self, keep]
  · rw [Slots.update_custom_of_ne _ _ h]

/-- No clause of the invariant looks into a session. -/
theorem calm_writeSession (c : Nat) (f : Session → Session) :
    Calm cfg (writeElement .session c f) := Calm.step fun s wf =>
  have benign : Benign s (s.mapEnt fun e => { e with session := e.session.update c f }) :=
    ⟨rfl, rfl, rfl, rfl, rfl, fun _ => rfl, fun o => by cases o <;> rfl, rfl, rfl, rfl, rfl⟩
  ⟨{ wf with session := wf.session.update c f, owner := wf.owner_of_benign benign }, benign,
    benign.micro⟩

theorem calm_writeTopic (i : Nat) (f : Topic → Topic) :
    Calm cfg (writeElement .topic i f) := Calm.step fun s wf =>
  have benign : Benign s (s.mapEnt fun e => { e with topic := e.topic.update i f }) :=
    ⟨rfl, rfl, rfl, rfl, rfl, fun _ => rfl, fun o => by cases o <;> rfl, rfl, rfl, rfl, rfl⟩
  ⟨{ wf with owner := wf.owner_of_benign benign }, benign, benign.micro⟩

theorem calm_writeGuardCondition (i : Nat) {f : GuardCondition → GuardCondition}
    (keep : ∀ g, (f g).rmwGuardCondition = g.rmwGuardCondition := by intro g; rfl) :
    Calm cfg (writeElement .guardCondition i f) := Calm.step fun s wf =>
  have benign : Benign s (s.mapEnt fun e => { e with guardCondition := e.guardCondition.update i f }) :=
    ⟨rfl, rfl, rfl, rfl, rfl, fun _ => rfl, fun o => by cases o <;> rfl, rfl, rfl, rfl, rfl⟩
  ⟨{ wf with
      guardCondition := wf.guardCondition.update i f
      guardHandles := fun j hj => (Slots.update_keep _ i keep j).trans (wf.guardHandles j hj)
      owner := wf.owner_of_benign benign }, benign, benign.micro⟩

/-- A write that keeps the handle of the publisher. -/
theorem calm_writePublisher (i : Nat) {f : Publisher → Publisher}
    (keep : ∀ b, (f b).rmwPublisher = b.rmwPublisher := by intro b; rfl) :
    Calm cfg (writeElement .publisher i f) := Calm.step fun s wf =>
  have benign : Benign s (s.mapEnt fun e => { e with publisher := e.publisher.update i f }) :=
    ⟨rfl, rfl, rfl, rfl, rfl, fun _ => rfl, fun o => by cases o <;> rfl, rfl, rfl, rfl, rfl⟩
  ⟨{ wf with
      publisher := wf.publisher.update i f
      publisherHandles := wf.publisherHandles.update i keep
      owner := wf.owner_of_benign benign }, benign, benign.micro⟩

/-- A write to a node that keeps its handle and its context. -/
theorem calm_writeNode (i : Nat) {f : Node → Node}
    (keep : ∀ b, (f b).rmwNode = b.rmwNode := by intro b; rfl)
    (context : ∀ b, (f b).context = b.context := by intro b; rfl) :
    Calm cfg (writeElement .node i f) := Calm.step fun s wf =>
  have benign : Benign s (s.mapEnt fun e => { e with node := e.node.update i f }) :=
    ⟨rfl, rfl, rfl, rfl, rfl, Slots.update_keep _ i context, fun o => by cases o <;> rfl,
      rfl, rfl, rfl, rfl⟩
  ⟨{ wf with
      node := wf.node.update i f
      nodeHandles := wf.nodeHandles.update i keep
      context := wf.context_of_benign benign
      owner := wf.owner_of_benign benign }, benign, benign.micro⟩

/-- A write that keeps the handle and the node of the entity. -/
theorem calm_writeSubscription (i : Nat) {f : Subscription → Subscription}
    (keep : ∀ b, (f b).rmwSubscription = b.rmwSubscription := by intro b; rfl)
    (owner : ∀ b, (f b).ownerNode = b.ownerNode := by intro b; rfl) :
    Calm cfg (writeElement .subscription i f) := Calm.step fun s wf =>
  have benign : Benign s (s.mapEnt fun e => { e with subscription := e.subscription.update i f }) :=
    ⟨rfl, rfl, rfl, rfl, rfl, fun _ => rfl, fun o => by
      cases o with
      | subscription j => exact Slots.update_keep _ i owner j
      | _ => rfl, rfl, rfl, rfl, rfl⟩
  ⟨{ wf with
      subscription := wf.subscription.update i f
      subscriptionHandles := wf.subscriptionHandles.update i keep
      owner := wf.owner_of_benign benign }, benign, benign.micro⟩

theorem calm_writeService (i : Nat) {f : Service → Service}
    (keep : ∀ b, (f b).rmwService = b.rmwService := by intro b; rfl)
    (owner : ∀ b, (f b).ownerNode = b.ownerNode := by intro b; rfl) :
    Calm cfg (writeElement .service i f) := Calm.step fun s wf =>
  have benign : Benign s (s.mapEnt fun e => { e with service := e.service.update i f }) :=
    ⟨rfl, rfl, rfl, rfl, rfl, fun _ => rfl, fun o => by
      cases o with
      | service j => exact Slots.update_keep _ i owner j
      | _ => rfl, rfl, rfl, rfl, rfl⟩
  ⟨{ wf with
      service := wf.service.update i f
      serviceHandles := wf.serviceHandles.update i keep
      owner := wf.owner_of_benign benign }, benign, benign.micro⟩

theorem calm_writeClient (i : Nat) {f : Client → Client}
    (keep : ∀ b, (f b).rmwClient = b.rmwClient := by intro b; rfl)
    (owner : ∀ b, (f b).ownerNode = b.ownerNode := by intro b; rfl) :
    Calm cfg (writeElement .client i f) := Calm.step fun s wf =>
  have benign : Benign s (s.mapEnt fun e => { e with client := e.client.update i f }) :=
    ⟨rfl, rfl, rfl, rfl, rfl, fun _ => rfl, fun o => by
      cases o with
      | client j => exact Slots.update_keep _ i owner j
      | _ => rfl, rfl, rfl, rfl, rfl⟩
  ⟨{ wf with
      client := wf.client.update i f
      clientHandles := wf.clientHandles.update i keep
      owner := wf.owner_of_benign benign }, benign, benign.micro⟩

end RmwMicroxrcedds
