import RmwMicroxrcedds.Base.IntrusiveList

/-!
# `memory.c`: the memory pools

A pool (`rmw_uxrce_mempool_t`) heads two intrusive lists over the same items: the items in
use and the free ones. `α` is the type of item addresses and `δ` the type of element
addresses an item's `data` points to: both are array indices in a static build, `Growth`
uses richer addresses for builds with `RMW_UXRCE_ALLOW_DYNAMIC_ALLOCATIONS`. The items live
in memory outside the pool (embedded in the array elements); `link`, `data` and
`isDynamicMemory` are their fields.
-/

namespace RmwMicroxrcedds
set_option autoImplicit false
open Intrusive

/-- `rmw_uxrce_mempool_t` with the items it manages. `size` is the number of items put under
its management so far: it bounds the walks along the lists. -/
structure Mempool (α δ : Type) where
  allocateditems : Option α
  freeitems : Option α
  isInitialized : Bool
  isDynamicAllowed : Bool
  link : α → Link α
  data : α → Option δ
  isDynamicMemory : α → Bool
  size : Nat

/-- The two `rmw_allocate` calls of `get_memory`'s dynamic branch: the address of the new
item, that of its element, and that of the item embedded in the element. -/
structure Allocation (α δ : Type) where
  item : α
  element : δ
  mem : α

namespace Mempool

variable {α δ : Type}

/-- Zero-initialised static storage. -/
def zero : Mempool α δ where
  allocateditems := none
  freeitems := none
  isInitialized := false
  isDynamicAllowed := false
  link := fun _ => ⟨none, none⟩
  data := fun _ => none
  isDynamicMemory := fun _ => false
  size := 0

/-- `has_memory`. -/
def hasMemory (m : Mempool α δ) : Bool := m.freeitems.isSome

variable [DecidableEq α]

/-- `put_memory`. A dynamic item is unlinked and returned to the allocator. -/
def putMemory (mem : Mempool α δ) (item : α) : Mempool α δ :=
  -- Gets item from allocated pool
  let link := match (mem.link item).prev with
    | some p => setNext mem.link p (mem.link item).next
    | none => mem.link
  let link := match (link item).next with
    | some n => setPrev link n (link item).prev
    | none => link
  let allocateditems :=
    if mem.allocateditems = some item then (link item).next else mem.allocateditems
  if mem.isDynamicMemory item then
    { mem with link := link, allocateditems := allocateditems }
  else
    -- Puts item in free pool
    let link := setNext link item mem.freeitems
    let link := match (link item).next with
      | some f => setPrev link f (some item)
      | none => link
    let link := setPrev link item none
    { mem with link := link, allocateditems := allocateditems, freeitems := some item }

/-- The first branch of `get_memory`: the head of the free list becomes the head of the
allocated one. -/
def getFree (mem : Mempool α δ) (item : α) : Mempool α δ :=
  -- Gets item from free pool
  let freeitems := (mem.link item).next
  let link := match freeitems with
    | some f => setPrev mem.link f none
    | none => mem.link
  -- Puts item in allocated pool
  let link := setNext link item mem.allocateditems
  let link := match (link item).next with
    | some n => setPrev link n (some item)
    | none => link
  let link := setPrev link item none
  { mem with link := link, freeitems := freeitems, allocateditems := some item }

/-- The blocks the dynamic branch of `get_memory` allocates: a list item with NULL links, and a
zeroed element, whose embedded item is therefore zero too. -/
def newItem (mem : Mempool α δ) (a : Allocation α δ) : Mempool α δ :=
  { mem with
    link := setPrev (setNext (setPrev (setNext mem.link a.mem none) a.mem none) a.item none)
      a.item none
    data := fun x => if x = a.item then some a.element else if x = a.mem then none
      else mem.data x
    isDynamicMemory := fun x => if x = a.item ∨ x = a.mem then false else mem.isDynamicMemory x
    size := mem.size + 1 }

/-- What the dynamic branch of `get_memory` does before it calls `get_memory` again: the new
item enters the free list as if it were static, and is marked dynamic afterwards. -/
def addDynamic (mem : Mempool α δ) (a : Allocation α δ) : Mempool α δ :=
  let mem := (mem.newItem a).putMemory a.item
  { mem with isDynamicMemory := fun x => if x = a.item then true else mem.isDynamicMemory x }

/-- `get_memory`. The list holds what the allocator answers; it is empty in a build without
`RMW_UXRCE_ALLOW_DYNAMIC_ALLOCATIONS`, which has no dynamic branch. -/
def getMemory (mem : Mempool α δ) (allocations : List (Allocation α δ)) :
    Option α × Mempool α δ :=
  match mem.freeitems with
  | some item => (some item, mem.getFree item)
  | none =>
    if mem.isDynamicAllowed then
      match allocations with
      | [] => (none, mem)
      | a :: rest => (mem.addDynamic a).getMemory rest
    else (none, mem)
termination_by structural allocations

/-- `RMW_INIT_MEMORY`: `mem i` is the item embedded in the array element `array i`. -/
def init (memory : Mempool α δ) (array : Nat → δ) (mem : Nat → α) (size : Nat) : Mempool α δ :=
  if 0 < size ∧ memory.isInitialized = false then
    let memory := { memory with
      isInitialized := true, allocateditems := none, freeitems := none,
      isDynamicAllowed := true, size := size }
    (List.range size).foldl (fun memory i =>
      let memory := memory.putMemory (mem i)
      { memory with
        data := fun x => if x = mem i then some (array i) else memory.data x
        isDynamicMemory := fun x => if x = mem i then false else memory.isDynamicMemory x }) memory
  else memory

/-- The items a walk from `allocateditems` visits. -/
def allocated (m : Mempool α δ) : List α := walk m.link m.size m.allocateditems

/-- The items a walk from `freeitems` visits. -/
def free (m : Mempool α δ) : List α := walk m.link m.size m.freeitems

end Mempool

end RmwMicroxrcedds
