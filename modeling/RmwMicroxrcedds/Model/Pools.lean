import RmwMicroxrcedds.Model.World

/-!
# The pools as the API functions use them

Element accesses, `get_memory` and the release functions of `types.c` as programs over the state.
The handing out of an element and the assignment of its id advance the history variables; the
release of an element that can own static buffers is recorded.
-/

namespace RmwMicroxrcedds
set_option autoImplicit false

variable {β : Type}

/-- The fields of an element. -/
def readElement (k : Kind β) (i : Nat) : Prog β := do
  return (k.slots (← get).w.ent).custom i

/-- Writing fields of an element. -/
def writeElement (k : Kind β) (i : Nat) (f : β → β) : Prog Unit :=
  modify (·.mapEnt fun e => k.withSlots ((k.slots e).update i f) e)

/-- `get_memory(&x_memory)`, and the element of the item it returns. -/
def getMemory (k : Kind β) : Prog (Option Nat) := do
  let s ← get
  let (slot, t) := (k.slots s.w.ent).get
  set ((s.mapEnt (k.withSlots t)).mapGhost fun g =>
    match slot.bind k.owner with
    | some o => g.handedOut o
    | none => g)
  return slot

/-- How the create functions begin: `get_memory`, and the handle embedded in the element.
`enter` is what they write besides. -/
def acquire [Element β] (k : Kind β) (enter : β → β) : Prog (Option Nat) := do
  match ← getMemory k with
  | none => return none
  | some i =>
    writeElement k i fun b =>
      Element.withHandle ⟨some .eprosimaMicroxrcedds, some i⟩ (enter b)
    return some i

/-- `put_memory(&x_memory, &custom->mem)`. -/
def putMemory (k : Kind β) (i : Nat) : Prog Unit :=
  modify (·.mapEnt fun e => k.withSlots ((k.slots e).put i) e)

/-- What the `rmw_uxrce_fini_x_memory` functions do to the handle embedded in an element and to
the element `data` points to. `clear` is what they do to the element itself. -/
def Slots.fini [Element β] (t : Slots β) (clear : β → β) (i : Nat) : Slots β :=
  let t := t.update i fun b =>
    Element.withHandle { Element.handle b with implementationIdentifier := none } b
  match (Element.handle (t.custom i)).data with
  | none => t
  | some custom =>
    ((t.update custom clear).put custom).update i fun b =>
      Element.withHandle { Element.handle b with data := none } b

/-- The `rmw_uxrce_fini_x_memory` functions. -/
def finiMemory [Element β] (k : Kind β) (clear : β → β) (i : Nat) : Prog Unit := do
  let handle := Element.handle (← readElement k i)
  if handle.implementationIdentifier ≠ some .foreign then
    match handle.data.bind k.owner with
    | some o => modify (·.record (.release o))
    | none => pure ()
    modify (·.mapEnt fun e => k.withSlots ((k.slots e).fini clear i) e)

/-- `rmw_uxrce_fini_session_memory`. -/
def rmwUxrceFiniSessionMemory (session : Nat) : Prog Unit := putMemory .session session

/-- `rmw_uxrce_fini_node_memory`. -/
def rmwUxrceFiniNodeMemory : Nat → Prog Unit := finiMemory .node fun n => { n with context := none }

/-- `rmw_uxrce_fini_publisher_memory`. -/
def rmwUxrceFiniPublisherMemory : Nat → Prog Unit := finiMemory .publisher id

/-- `rmw_uxrce_fini_subscription_memory`. -/
def rmwUxrceFiniSubscriptionMemory : Nat → Prog Unit := finiMemory .subscription id

/-- `rmw_uxrce_fini_service_memory`. -/
def rmwUxrceFiniServiceMemory : Nat → Prog Unit := finiMemory .service id

/-- `rmw_uxrce_fini_client_memory`. -/
def rmwUxrceFiniClientMemory : Nat → Prog Unit := finiMemory .client id

/-- `rmw_uxrce_fini_topic_memory`. -/
def rmwUxrceFiniTopicMemory (topic : Nat) : Prog Unit := do
  putMemory .topic topic
  writeElement .topic topic fun t => { t with ownerNode := none }

/-- `context->counter++` for one of the 16-bit id counters. -/
def postIncrement (context : Nat) (counter : Session → Nat) (store : Nat → Session → Session) :
    Prog Nat := do
  let value := counter (← readElement .session context)
  writeElement .session context (store ((value + 1) % 65536))
  return value

/-- `custom_node->context`. -/
def contextOf (node : Nat) : Prog Nat := do
  return deref (← readElement .node node).context

/-- `is_uxrce_rmw_identifier_valid`. -/
def isUxrceRmwIdentifierValid (id : Option Identifier) : Bool := id == some .eprosimaMicroxrcedds

end RmwMicroxrcedds
