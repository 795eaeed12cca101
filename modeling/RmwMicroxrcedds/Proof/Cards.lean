import RmwMicroxrcedds.Proof.Draws

/-!
# The objects behind the entities in use

An entity in use stands for one or two XRCE objects. A card records the slot, the node or context it
belongs to and the id; the cards of a kind, in list order, are what the statements about ids are
about. Creating an entity puts a card in front, destroying one takes its cards away.
-/

namespace RmwMicroxrcedds
set_option autoImplicit false

variable {β : Type}

structure Card where
  slot : Nat
  parent : Option Nat
  id : UxrObjectId
deriving DecidableEq

/-- The cards of the elements in use. -/
def Slots.cards (t : Slots β) (parent : β → Option Nat) (id : β → UxrObjectId) : List Card :=
  t.elements.map fun i => ⟨i, parent (t.custom i), id (t.custom i)⟩

/-- The objects of a kind. -/
def Entities.cards (e : Entities) : ObjectKind → List Card
  | .invalid => []
  | .participant => e.node.cards (·.context) (·.participantId)
  | .topic => e.topic.cards (·.ownerNode) (·.topicId)
  | .publisher => e.publisher.cards (·.ownerNode) (·.publisherId)
  | .datawriter => e.publisher.cards (·.ownerNode) (·.datawriterId)
  | .subscriber => e.subscription.cards (·.ownerNode) (·.subscriberId)
  | .datareader => e.subscription.cards (·.ownerNode) (·.datareaderId)
  | .requester => e.client.cards (·.ownerNode) (·.clientId)
  | .replier => e.service.cards (·.ownerNode) (·.serviceId)

section Slots

variable {t u : Slots β} {parent : β → Option Nat} {id : β → UxrObjectId} {i : Nat}

theorem Slots.mem_cards {card : Card} : card ∈ t.cards parent id ↔
    ∃ i ∈ t.elements, (⟨i, parent (t.custom i), id (t.custom i)⟩ : Card) = card := List.mem_map

theorem Slots.cards_kept (elements : u.elements = t.elements)
    (custom : ∀ j ∈ t.elements, u.custom j = t.custom j) : u.cards parent id = t.cards parent id := by
  rw [cards, cards, elements]
  exact List.map_congr_left fun j hj => by rw [custom j hj]

theorem Slots.cards_made (elements : u.elements = i :: t.elements)
    (custom : ∀ j ∈ t.elements, u.custom j = t.custom j) :
    u.cards parent id = ⟨i, parent (u.custom i), id (u.custom i)⟩ :: t.cards parent id := by
  rw [cards, cards, elements, List.map_cons]
  exact congrArg _ (List.map_congr_left fun j hj => by rw [custom j hj])

end Slots

/-- The elements of a pool that stand for objects. -/
structure Bearer (β : Type) where
  kind : Kind β
  parent : β → Option Nat
  objects : List ObjectKind
  id : ObjectKind → β → UxrObjectId
  own : ∀ e : Entities, ∀ k ∈ objects, e.cards k = (kind.slots e).cards parent (id k)
  others : ∀ (e : Entities) u s t k, k ∉ objects → k ≠ .topic →
    (kind.withSlots u { e with session := s, topic := t }).cards k = e.cards k

namespace Bearer

def node : Bearer Node where
  kind := .node
  parent := (·.context)
  objects := [.participant]
  id _ n := n.participantId
  own e k hk := by
    rw [List.mem_singleton] at hk
    rw [hk]
    rfl
  others e u s t k hk ht := by
    cases k <;> first | rfl | exact absurd rfl ht | exact absurd List.mem_cons_self hk

section Spent

variable (b : Bearer β) {e : Entities} {u : Slots β} {s : Slots Session} {t : Slots Topic} {i : Nat}

/-- The elements in use are as they were. -/
theorem kept (elements : u.elements = (b.kind.slots e).elements)
    (custom : ∀ j ∈ (b.kind.slots e).elements, u.custom j = (b.kind.slots e).custom j)
    {k : ObjectKind} (hk : k ≠ .topic) :
    (b.kind.withSlots u { e with session := s, topic := t }).cards k = e.cards k := by
  by_cases own : k ∈ b.objects
  · rw [b.own _ k own, b.own e k own, b.kind.slots_withSlots]
    exact Slots.cards_kept elements custom
  · exact b.others e u s t k own hk

/-- One more element is in use. -/
theorem made (elements : u.elements = i :: (b.kind.slots e).elements)
    (custom : ∀ j ∈ (b.kind.slots e).elements, u.custom j = (b.kind.slots e).custom j)
    {k : ObjectKind} (hk : k ≠ .topic) :
    (b.kind.withSlots u { e with session := s, topic := t }).cards k =
      if k ∈ b.objects then ⟨i, b.parent (u.custom i), b.id k (u.custom i)⟩ :: e.cards k
      else e.cards k := by
  split
  · rename_i own
    rw [b.own _ k own, b.own e k own, b.kind.slots_withSlots]
    exact Slots.cards_made elements custom
  · rename_i own
    exact b.others e u s t k own hk

end Spent

end Bearer

end RmwMicroxrcedds
