import RmwMicroxrcedds.Proof.Receptions

/-!
# The invariant of all reachable states

`Wf` holds after every atomic action of every call, whatever the agent and the environment do:
every pool but that of the topics is a proper static pool, the handle embedded in an element is
filled exactly while the element is in use, a node in use belongs to an open context, and an
entity whose id has been assigned belongs to a node in use. The topic pool is left out: a failing
creation can break it.
-/

namespace RmwMicroxrcedds
set_option autoImplicit false

/-! ## The invariant -/

/-- A handle names its own element while the element is in use, and nothing otherwise. -/
def Handles {β : Type} [Element β] (t : Slots β) : Prop :=
  ∀ i, Element.handle (t.custom i) =
    if i ∈ t.elements then ⟨some .eprosimaMicroxrcedds, some i⟩ else ⟨none, none⟩

structure Wf (cfg : Config) (s : State) : Prop where
  session : s.w.ent.session.Ok cfg.maxSessions
  node : s.w.ent.node.Ok cfg.maxNodes
  publisher : s.w.ent.publisher.Ok cfg.maxPublishers
  subscription : s.w.ent.subscription.Ok cfg.maxSubscriptions
  service : s.w.ent.service.Ok cfg.maxServices
  client : s.w.ent.client.Ok cfg.maxClients
  guardCondition : s.w.ent.guardCondition.Ok cfg.maxGuardCondition
  staticBuffer : s.w.buf.staticBuffer.Ok cfg.maxHistory
  nodeHandles : Handles s.w.ent.node
  publisherHandles : Handles s.w.ent.publisher
  subscriptionHandles : Handles s.w.ent.subscription
  serviceHandles : Handles s.w.ent.service
  clientHandles : Handles s.w.ent.client
  guardHandles : ∀ i ∈ s.w.ent.guardCondition.elements,
    (s.w.ent.guardCondition.custom i).rmwGuardCondition = ⟨some .eprosimaMicroxrcedds, some i⟩
  /-- a node in use belongs to an open context -/
  context : ∀ n ∈ s.w.ent.node.elements,
    ∃ c ∈ s.w.ent.session.elements, (s.w.ent.node.custom n).context = some c
  /-- an entity with an assigned id belongs to a node in use -/
  owner : ∀ o, s.w.ent.Alive o → s.ghost.givenIn o ≠ none →
    ∃ n ∈ s.w.ent.node.elements, s.w.ent.ownerNode o = some n

section Slots
variable {β : Type} [Element β] {t : Slots β} {n : Nat}

theorem handles_zero [Inhabited β] (h : Element.handle (default : β) = ⟨none, none⟩) :
    Handles (Slots.zero : Slots β) := fun i => by
  simp [Slots.zero, Slots.elements, Mempool.elements, Mempool.zero, Mempool.allocated,
    Intrusive.walk, h]

theorem Handles.of_mem (hs : Handles t) {i : Nat} (h : i ∈ t.elements) :
    Element.handle (t.custom i) = ⟨some .eprosimaMicroxrcedds, some i⟩ := by
  rw [hs i, if_pos h]

theorem Handles.of_not_mem (hs : Handles t) {i : Nat} (h : i ∉ t.elements) :
    Element.handle (t.custom i) = ⟨none, none⟩ := by
  rw [hs i, if_neg h]

theorem Handles.valid (hs : Handles t) {i : Nat}
    (h : isUxrceRmwIdentifierValid (Element.handle (t.custom i)).implementationIdentifier = true) :
    i ∈ t.elements := by
  by_contra hi
  rw [hs.of_not_mem hi] at h
  cases h

/-- Writing fields other than the handle. -/
theorem Handles.update (hs : Handles t) (i : Nat) {f : β → β}
    (keep : ∀ b, Element.handle (f b) = Element.handle b) : Handles (t.update i f) := fun j => by
  have same : Element.handle ((t.update i f).custom j) = Element.handle (t.custom j) := by
    by_cases h : j = i
    · subst h
      rw [Slots.update_custom_self, keep]
    · rw [Slots.update_custom_of_ne _ _ h]
  exact same.trans (hs j)

/-- The element handed out by `acquire`. -/
def Slots.opened (t : Slots β) (i : Nat) (enter : β → β) : Slots β :=
  t.get.2.update i fun b => Element.withHandle ⟨some .eprosimaMicroxrcedds, some i⟩ (enter b)

theorem Handles.opened (hs : Handles t) (ok : t.Ok n) {i : Nat} (h : t.get.1 = some i)
    (enter : β → β) : Handles (t.opened i enter) := fun j => by
  obtain ⟨-, -, -, e⟩ := ok.get_some h
  by_cases hj : j = i
  · subst hj
    simp [Slots.opened, e, Element.handle_withHandle]
  · simp [Slots.opened, Slots.update_custom_of_ne _ _ hj, e, hj, hs j]

/-- What `fini` does to an element in use. -/
theorem Slots.fini_of_mem (hs : Handles t) {i : Nat} (h : i ∈ t.elements) {clear : β → β}
    (keep : ∀ b, Element.handle (clear b) = Element.handle b) :
    ∃ custom, t.fini clear i = { memory := t.memory.putMemory i, custom := custom } ∧
      Element.handle (custom i) = ⟨none, none⟩ ∧ (∀ j, j ≠ i → custom j = t.custom j) := by
  have hd : (Element.handle (t.custom i)).data = some i := by rw [hs.of_mem h]
  refine ⟨(t.fini clear i).custom, ?_, ?_, fun j hj => ?_⟩
  · simp [Slots.fini, Element.handle_withHandle, hd, Slots.put, Slots.update]
  · simp [Slots.fini, Element.handle_withHandle, hd, Slots.put, Slots.update, keep]
  · simp [Slots.fini, Element.handle_withHandle, hd, Slots.put, Slots.update, setAt_of_ne _ _ hj]

theorem Slots.fini_size (t : Slots β) (clear : β → β) (i : Nat) :
    (t.fini clear i).memory.size = t.memory.size := by
  unfold fini
  dsimp only
  split
  · rfl
  · exact put_size _ _

theorem Slots.fini_of_not_mem (hs : Handles t) {i : Nat} (h : i ∉ t.elements) (clear : β → β) :
    t.fini clear i = t := by
  have hb := hs.of_not_mem h
  have same : Element.withHandle ⟨none, none⟩ (t.custom i) = t.custom i := by
    rw [← hb, Element.withHandle_handle]
  have hu : (t.update i fun b =>
      Element.withHandle { Element.handle b with implementationIdentifier := none } b) = t := by
    have : setAt t.custom i (t.custom i) = t.custom := by
      funext j
      simp only [setAt]
      split
      · subst_vars; rfl
      · rfl
    simp [Slots.update, hb, same, this]
  simp only [Slots.fini, hu, hb]

end Slots

end RmwMicroxrcedds
