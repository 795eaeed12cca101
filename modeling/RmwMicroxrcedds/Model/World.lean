import RmwMicroxrcedds.Model.Types

/-!
# The library's memory, its environment, and what a run leaves behind

`World` is what the C program sees: the entity pools, the static input buffers, and the
monotonic clock. A `State` adds the agent, the history variables the specifications speak
about, and the trace of the atomic actions of the run. The agent is a script: the answer it has
ready for each session run of the call in progress, with the callbacks raised meanwhile.

The builds modelled are those without `RMW_UXRCE_ALLOW_DYNAMIC_ALLOCATIONS` (the default): a
pool hands out the elements of its static array and nothing else.
-/

namespace RmwMicroxrcedds
set_option autoImplicit false

/-- A pool over a static array: the item at address `i` is embedded in the element `i`. -/
abbrev Pool := Mempool Nat Nat

/-- `item->data`. The items of an initialised static pool point to the element they are embedded
in, so the default only stands for a NULL that is never dereferenced. -/
def Mempool.elem (m : Pool) (item : Nat) : Nat := (m.data item).getD item

/-- The elements a walk along the allocated list visits. -/
def Mempool.elements (m : Pool) : List Nat := m.allocated.map m.elem

/-- Dereferencing a pointer that is not NULL in any defined execution. -/
def deref (p : Option Nat) : Nat := p.getD 0

/-- Overwriting one array element. -/
def setAt {β : Type} (f : Nat → β) (i : Nat) (v : β) : Nat → β := fun j => if j = i then v else f j

@[simp] theorem setAt_self {β : Type} (f : Nat → β) (i : Nat) (v : β) : setAt f i v i = v :=
  if_pos rfl

theorem setAt_of_ne {β : Type} (f : Nat → β) {i j : Nat} (v : β) (h : j ≠ i) :
    setAt f i v j = f j := if_neg h

@[simp] theorem setAt_setAt {β : Type} (f : Nat → β) (i : Nat) (v w : β) :
    setAt (setAt f i v) i w = setAt f i w := by
  funext j
  by_cases h : j = i
  · rw [h, setAt_self, setAt_self]
  · rw [setAt_of_ne _ _ h, setAt_of_ne _ _ h, setAt_of_ne _ _ h]

/-- Writing what is there. -/
theorem setAt_same {β : Type} {f : Nat → β} {i : Nat} {v : β} (h : v = f i) : setAt f i v = f := by
  funext j
  by_cases e : j = i
  · rw [e, setAt_self, h]
  · rw [setAt_of_ne _ _ e]

/-- A pool and its static array: `x_memory` and `custom_xs`. -/
structure Slots (β : Type) where
  memory : Pool
  custom : Nat → β

namespace Slots
variable {β : Type}

def zero [Inhabited β] : Slots β := { memory := .zero, custom := fun _ => default }

/-- The elements in use, in list order. -/
def elements (t : Slots β) : List Nat := t.memory.elements

/-- Writing fields of one element. -/
def update (t : Slots β) (i : Nat) (f : β → β) : Slots β :=
  { t with custom := setAt t.custom i (f (t.custom i)) }

/-- `get_memory` and the element the item points to. -/
def get (t : Slots β) : Option Nat × Slots β :=
  let (memoryNode, memory) := t.memory.getMemory []
  (memoryNode.map memory.elem, { t with memory := memory })

/-- `put_memory` of the item embedded in an element. -/
def put (t : Slots β) (i : Nat) : Slots β := { t with memory := t.memory.putMemory i }

/-- `RMW_INIT_MEMORY` over the pool's own array. -/
def init (t : Slots β) (size : Nat) : Slots β := { t with memory := t.memory.init id id size }

end Slots

/-- The elements that embed the handle given to the user. -/
class Element (β : Type) where
  handle : β → Handle
  withHandle : Handle → β → β
  handle_withHandle : ∀ h b, handle (withHandle h b) = h
  withHandle_handle : ∀ b, withHandle (handle b) b = b

instance : Element Node :=
  ⟨(·.rmwNode), fun h b => { b with rmwNode := h }, fun _ _ => rfl, fun _ => rfl⟩
instance : Element Publisher :=
  ⟨(·.rmwPublisher), fun h b => { b with rmwPublisher := h }, fun _ _ => rfl, fun _ => rfl⟩
instance : Element Subscription :=
  ⟨(·.rmwSubscription), fun h b => { b with rmwSubscription := h }, fun _ _ => rfl, fun _ => rfl⟩
instance : Element Service :=
  ⟨(·.rmwService), fun h b => { b with rmwService := h }, fun _ _ => rfl, fun _ => rfl⟩
instance : Element Client :=
  ⟨(·.rmwClient), fun h b => { b with rmwClient := h }, fun _ _ => rfl, fun _ => rfl⟩

/-- The pools of entities with their arrays. -/
structure Entities where
  session : Slots Session
  node : Slots Node
  publisher : Slots Publisher
  subscription : Slots Subscription
  service : Slots Service
  client : Slots Client
  topic : Slots Topic
  guardCondition : Slots GuardCondition

/-- What the callbacks write: the static input buffers and the graph buffers of the sessions. -/
structure Buffers where
  staticBuffer : Slots StaticInputBuffer
  graphInfo : Nat → GraphInfo

/-- The memory of the library and the reading of `uxr_nanos`. -/
structure World where
  ent : Entities
  buf : Buffers
  uxrNanos : Int

/-- What happens while a session runs: time passes, or a callback is raised. `ub` is what the
reader delivers before it ends; the sample is `length` bytes long. -/
inductive SessionEvent where
  | time (d : Nat)
  | topic (objectId : UxrObjectId) (ub : List UInt8) (length : Nat)
  | request (requestId : Nat) (sampleId : SampleIdentity) (ub : List UInt8) (length : Nat)
  | reply (requestId replyId : Nat) (ub : List UInt8) (length : Nat)
deriving DecidableEq

/-- How the agent answers one session run. -/
structure Answer where
  events : List SessionEvent
  confirmed : Bool
deriving DecidableEq

/-- The requests the library buffers for the agent. A creation carries the object it hangs under
and the texts sent along: names, or in the refs mode a reference or a document. -/
inductive XrceRequest where
  | create (id : UxrObjectId) (parent : Option UxrObjectId) (texts : List CStr)
  | createGraph (ids : List UxrObjectId)
  | cancelData (id : UxrObjectId)
  | deleteEntity (id : UxrObjectId)
deriving DecidableEq

/-- The kinds of API call, as far as the specifications tell them apart. -/
inductive CallKind where
  | init | shutdown | create | destroy | take | wait | send | other
deriving DecidableEq, Inhabited

/-- Where the content of a static buffer comes from: the callback invocation, numbered, that
filled it, its session and arguments, the monotonic time it ran at, and the incarnation of the
owner it found. -/
structure Source where
  rx : Nat
  session : Nat
  event : SessionEvent
  nanos : Int
  incarnation : Nat
deriving DecidableEq

/-- History variables: the number of callbacks raised, the source of each buffer, how often each
element has been handed out, the session epoch in which an element's id was assigned since it
was last handed out, and the number of sessions opened. -/
structure Ghost where
  rx : Nat
  source : Nat → Option Source
  incarnation : Owner → Nat
  givenIn : Owner → Option Nat
  epoch : Nat

/-- The atomic actions the specifications speak about. -/
inductive Act where
  | callback (session : Nat) (event : SessionEvent)
  | expire (buffer : Nat)
  | flush (buffer : Nat)
  | take (owner : Option Owner) (buffer : Nat) (deserialized : Bool)
  | release (owner : Owner)
  | ran (session : Nat) (request : XrceRequest) (confirmed : Bool)
  | waited (session : Nat) (untilData : Bool) (timeout : Int)
  | openTransport (session : Nat) (opened : Bool)
  | closeTransport (session : Nat)
deriving DecidableEq

/-- An atomic action with the state it was taken in. -/
structure Moment where
  call : CallKind
  act : Act
  world : World
  ghost : Ghost

structure State where
  w : World
  ghost : Ghost
  agent : List Answer
  call : CallKind
  trace : List Moment

/-- Static storage before any call. -/
def Entities.zero : Entities where
  session := .zero
  node := .zero
  publisher := .zero
  subscription := .zero
  service := .zero
  client := .zero
  topic := .zero
  guardCondition := .zero

def Buffers.zero : Buffers where
  staticBuffer := .zero
  graphInfo := fun _ => default

/-- One of the pools, and the address under which static buffers record its elements. -/
structure Kind (β : Type) where
  slots : Entities → Slots β
  withSlots : Slots β → Entities → Entities
  owner : Nat → Option Owner
  slots_withSlots : ∀ t e, slots (withSlots t e) = t
  withSlots_slots : ∀ e, withSlots (slots e) e = e
  withSlots_withSlots : ∀ t t' e, withSlots t (withSlots t' e) = withSlots t e

namespace Kind

def session : Kind Session where
  slots := (·.session)
  withSlots t e := { e with session := t }
  owner _ := none
  slots_withSlots _ _ := rfl
  withSlots_slots _ := rfl
  withSlots_withSlots _ _ _ := rfl

def node : Kind Node where
  slots := (·.node)
  withSlots t e := { e with node := t }
  owner _ := none
  slots_withSlots _ _ := rfl
  withSlots_slots _ := rfl
  withSlots_withSlots _ _ _ := rfl

def publisher : Kind Publisher where
  slots := (·.publisher)
  withSlots t e := { e with publisher := t }
  owner _ := none
  slots_withSlots _ _ := rfl
  withSlots_slots _ := rfl
  withSlots_withSlots _ _ _ := rfl

def subscription : Kind Subscription where
  slots := (·.subscription)
  withSlots t e := { e with subscription := t }
  owner i := some (.subscription i)
  slots_withSlots _ _ := rfl
  withSlots_slots _ := rfl
  withSlots_withSlots _ _ _ := rfl

def service : Kind Service where
  slots := (·.service)
  withSlots t e := { e with service := t }
  owner i := some (.service i)
  slots_withSlots _ _ := rfl
  withSlots_slots _ := rfl
  withSlots_withSlots _ _ _ := rfl

def client : Kind Client where
  slots := (·.client)
  withSlots t e := { e with client := t }
  owner i := some (.client i)
  slots_withSlots _ _ := rfl
  withSlots_slots _ := rfl
  withSlots_withSlots _ _ _ := rfl

def topic : Kind Topic where
  slots := (·.topic)
  withSlots t e := { e with topic := t }
  owner _ := none
  slots_withSlots _ _ := rfl
  withSlots_slots _ := rfl
  withSlots_withSlots _ _ _ := rfl

def guardCondition : Kind GuardCondition where
  slots := (·.guardCondition)
  withSlots t e := { e with guardCondition := t }
  owner _ := none
  slots_withSlots _ _ := rfl
  withSlots_slots _ := rfl
  withSlots_withSlots _ _ _ := rfl

end Kind

namespace Ghost

/-- An element has been handed out by `get_memory`. -/
def handedOut (g : Ghost) (o : Owner) : Ghost :=
  { g with
    incarnation := fun p => if p = o then g.incarnation o + 1 else g.incarnation p
    givenIn := fun p => if p = o then none else g.givenIn p }

/-- The id by which the callbacks know an element has been written. -/
def given (g : Ghost) (o : Owner) : Ghost :=
  { g with givenIn := fun p => if p = o then some g.epoch else g.givenIn p }

end Ghost

/-- The program before its first call. -/
def State.zero : State where
  w := { ent := .zero, buf := .zero, uxrNanos := 0 }
  ghost := { rx := 0, source := fun _ => none, incarnation := fun _ => 0,
             givenIn := fun _ => none, epoch := 0 }
  agent := []
  call := .other
  trace := []

namespace State

/-- Recording an atomic action. -/
def record (s : State) (act : Act) : State :=
  { s with trace := ⟨s.call, act, s.w, s.ghost⟩ :: s.trace }

def mapEnt (s : State) (f : Entities → Entities) : State := { s with w := { s.w with ent := f s.w.ent } }

def mapBuf (s : State) (f : Buffers → Buffers) : State := { s with w := { s.w with buf := f s.w.buf } }

def mapGhost (s : State) (f : Ghost → Ghost) : State := { s with ghost := f s.ghost }

end State

/-- A piece of the library as it acts on the state. -/
abbrev Prog := StateM State

end RmwMicroxrcedds
