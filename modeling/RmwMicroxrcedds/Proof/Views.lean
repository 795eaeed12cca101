import RmwMicroxrcedds.Pool.StaticPool
import RmwMicroxrcedds.Model.System

/-!
# Owners, routes and queues

The vocabulary of the specifications: what is in use, the id an entity is known by, and the list of
the buffers in use.
-/

namespace RmwMicroxrcedds
set_option autoImplicit false

namespace Entities

/-- The entity an owner address stands for is in use. -/
def Alive (e : Entities) : Owner → Prop
  | .subscription i => i ∈ e.subscription.elements
  | .service i => i ∈ e.service.elements
  | .client i => i ∈ e.client.elements

instance (e : Entities) (o : Owner) : Decidable (e.Alive o) :=
  match o with
  | .subscription i => inferInstanceAs (Decidable (i ∈ e.subscription.elements))
  | .service i => inferInstanceAs (Decidable (i ∈ e.service.elements))
  | .client i => inferInstanceAs (Decidable (i ∈ e.client.elements))

def ownerNode (e : Entities) : Owner → Option Nat
  | .subscription i => (e.subscription.custom i).ownerNode
  | .service i => (e.service.custom i).ownerNode
  | .client i => (e.client.custom i).ownerNode

/-- `owner_node->context`. -/
def ownerContext (e : Entities) (o : Owner) : Option Nat :=
  (e.ownerNode o).bind fun n => (e.node.custom n).context

end Entities

/-- The id a sample is delivered for, and the id an entity carries. -/
inductive Route where
  | datareader (id : UxrObjectId)
  | request (id : Nat)
  | reply (id : Nat)
deriving DecidableEq

def SessionEvent.route : SessionEvent → Option Route
  | .time _ => none
  | .topic objectId _ _ => some (.datareader objectId)
  | .request requestId _ _ _ => some (.request requestId)
  | .reply requestId _ _ _ => some (.reply requestId)

def Entities.route (e : Entities) : Owner → Route
  | .subscription i => .datareader (e.subscription.custom i).datareaderId
  | .service i => .request (e.service.custom i).serviceDataResquest
  | .client i => .reply (e.client.custom i).clientDataRequest

/-- The type recorded in the buffers of an owner. -/
def Owner.entityType : Owner → EntityType
  | .subscription _ => .subscription
  | .service _ => .service
  | .client _ => .client

/-- The profile of an entity. -/
def Entities.qos (e : Entities) : Owner → RmwQosProfile
  | .subscription i => (e.subscription.custom i).qos
  | .service i => (e.service.custom i).qos
  | .client i => (e.client.custom i).qos

/-! ## Recorded actions -/

/-- The session and the event of a callback. -/
def Act.callback? : Act → Option (Nat × SessionEvent)
  | .callback session ev => some (session, ev)
  | _ => none

theorem Act.callback?_eq_some {act : Act} {session : Nat} {ev : SessionEvent} :
    act.callback? = some (session, ev) ↔ act = .callback session ev := by
  cases act <;> simp [callback?]

/-- The owner a take searches for and the buffer it releases. -/
def Act.take? : Act → Option (Option Owner × Nat)
  | .take owner i _ => some (owner, i)
  | _ => none

theorem Act.take?_eq_some {act : Act} {owner : Option Owner} {i : Nat} :
    act.take? = some (owner, i) ↔ ∃ deserialized, act = .take owner i deserialized := by
  cases act <;> simp [take?]

/-- The entity a release is about. -/
def Act.release? : Act → Option Owner
  | .release o => some o
  | _ => none

/-- The buffer a shutdown releases. -/
def Act.flush? : Act → Option Nat
  | .flush i => some i
  | _ => none

/-- The take function of an entity, with its type support. -/
def Owner.takeWith (cdrDeserialize : List UInt8 → Bool) : Owner → Call
  | .subscription i => .take i cdrDeserialize
  | .service i => .takeRequest i cdrDeserialize
  | .client i => .takeResponse i cdrDeserialize

/-! ## Queues -/

/-- The entities in use that the callback of an event scans, in the order it does. -/
def Entities.scanned (e : Entities) : SessionEvent → List Owner
  | .time _ => []
  | .topic .. => e.subscription.elements.map .subscription
  | .request .. => e.service.elements.map .service
  | .reply .. => e.client.elements.map .client

/-- The buffers in use, in list order. -/
def Buffers.queue (b : Buffers) : List Nat := b.staticBuffer.elements

/-- The buffer an item is embedded in. -/
def Buffers.slot (b : Buffers) (i : Nat) : StaticInputBuffer := b.staticBuffer.custom i

theorem Entities.alive_of_scanned {e : Entities} {ev : SessionEvent} {o : Owner}
    (h : o ∈ e.scanned ev) : e.Alive o := by
  cases ev <;> simp only [scanned, List.mem_map, List.not_mem_nil] at h
  all_goals
    obtain ⟨i, hi, rfl⟩ := h
    exact hi

end RmwMicroxrcedds
