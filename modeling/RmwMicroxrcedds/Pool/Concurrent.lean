import RmwMicroxrcedds.Base.ThreadProgress
import RmwMicroxrcedds.Pool.Discipline

/-!
# `memory.c`, access by access

With `UCLIENT_PROFILE_MULTITHREAD` the functions on a pool take its recursive mutex, and threads call them at
the same time. Here each read and each write of a field is an access of its own, so that other threads can move
between any two of them. `dynamic` says whether the build has `RMW_UXRCE_ALLOW_DYNAMIC_ALLOCATIONS`.

While nobody else moves, the functions do what those of `Mempool` do.
-/

namespace RmwMicroxrcedds.Concurrent
set_option autoImplicit false
open Intrusive Threads Threads.Code

variable {α δ : Type}

/-! ## The functions -/

def setLink (f : (α → Link α) → α → Link α) : Code (Mempool α δ) Unit :=
  store fun mem => { mem with link := f mem.link }

def nextOf (item : α) : Code (Mempool α δ) (Option α) := fetch fun mem => (mem.link item).next

def prevOf (item : α) : Code (Mempool α δ) (Option α) := fetch fun mem => (mem.link item).prev

/-- `has_memory` -/
def hasMemory : Code (Mempool α δ) Bool := do
  takeMutex
  let rv ← fetch (·.freeitems.isSome)
  giveMutex
  return rv

variable [DecidableEq α]

/-- `if (x) x->prev = v` -/
def setPrevOf (x v : Option α) : Code (Mempool α δ) Unit :=
  match x with
  | some x => setLink fun link => setPrev link x v
  | none => pure ()

/-- `if (item->prev) item->prev->next = item->next` -/
def joinPrev (item : α) : Code (Mempool α δ) Unit := do
  match ← prevOf item with
  | some p =>
    let next ← nextOf item
    setLink fun link => setNext link p next
  | none => pure ()

/-- `if (item->next) item->next->prev = item->prev` -/
def joinNext (item : α) : Code (Mempool α δ) Unit := do
  match ← nextOf item with
  | some n =>
    let prev ← prevOf item
    setLink fun link => setPrev link n prev
  | none => pure ()

/-- `if (mem->allocateditems == item) mem->allocateditems = item->next` -/
def dropHead (item : α) : Code (Mempool α δ) Unit := do
  let head ← fetch (·.allocateditems)
  if head = some item then
    let next ← nextOf item
    store fun mem => { mem with allocateditems := next }
  else pure ()

/-- `item->next = head; if (item->next) item->next->prev = item; item->prev = NULL` -/
def putInFront (item : α) (head : Mempool α δ → Option α) : Code (Mempool α δ) Unit := do
  let first ← fetch head
  setLink fun link => setNext link item first
  let next ← nextOf item
  setPrevOf next (some item)
  setLink fun link => setPrev link item none

/-- The end of `put_memory`: the item goes into the free pool. -/
def putFree (item : α) : Code (Mempool α δ) Unit := do
  putInFront item (·.freeitems)
  store fun mem => { mem with freeitems := some item }
  giveMutex

/-- `put_memory`. A dynamic item goes back to the allocator, and the mutex stays taken. -/
def putMemory (dynamic : Bool) (item : α) : Code (Mempool α δ) Unit := do
  takeMutex
  joinPrev item
  joinNext item
  dropHead item
  if dynamic then
    let own ← fetch (·.isDynamicMemory item)
    if own then pure () else putFree item
  else putFree item

/-- The first branch of `get_memory`. -/
def takeFree : Code (Mempool α δ) (Option α) := do
  match ← fetch (·.freeitems) with
  | none => pure none
  | some item =>
    let next ← nextOf item
    store fun mem => { mem with freeitems := next }
    let first ← fetch (·.freeitems)
    setPrevOf first none
    putInFront item (·.allocateditems)
    store fun mem => { mem with allocateditems := some item }
    pure (some item)

/-- What the second branch does with the blocks it has allocated. Until `put_memory` they are its own. -/
def addDynamic (a : Allocation α δ) : Code (Mempool α δ) Unit := do
  store (·.newItem a)
  putMemory true a.item
  store fun mem => { mem with isDynamicMemory := fun x => if x = a.item then true else mem.isDynamicMemory x }

/-- The second branch. -/
def takeGrown (grow : Code (Mempool α δ) (Option α)) : Code (Mempool α δ) (Option α) := do
  let allowed ← fetch (·.isDynamicAllowed)
  if allowed then grow else pure none

/-- `get_memory`, with what its second branch does when it may allocate. -/
def getMemoryOr (grow : Code (Mempool α δ) (Option α)) : Code (Mempool α δ) (Option α) := do
  takeMutex
  let rv ← hasMemory
  let item ← bif rv then takeFree else takeGrown grow
  giveMutex
  return item

/-- `get_memory`, with the blocks the allocator has for it. -/
def getMemory : List (Allocation α δ) → Code (Mempool α δ) (Option α)
  | [] => getMemoryOr (pure none)
  | a :: rest => getMemoryOr do
    addDynamic a
    getMemory rest

/-! ## Alone -/

section Alone

variable (mem : Mempool α δ) (item : α) (held : Nat)

section Plain

omit [DecidableEq α]

@[simp] theorem setLink_alone (f : (α → Link α) → α → Link α) :
    (setLink f : Code (Mempool α δ) Unit).alone mem = ((), { mem with link := f mem.link }) := rfl

@[simp] theorem setLink_kept (f : (α → Link α) → α → Link α) :
    (setLink f : Code (Mempool α δ) Unit).kept held mem = held := rfl

@[simp] theorem nextOf_alone : (nextOf item).alone mem = ((mem.link item).next, mem) := rfl

@[simp] theorem nextOf_kept : (nextOf item).kept held mem = held := rfl

@[simp] theorem prevOf_alone : (prevOf item).alone mem = ((mem.link item).prev, mem) := rfl

@[simp] theorem prevOf_kept : (prevOf item).kept held mem = held := rfl

@[simp] theorem hasMemory_alone : hasMemory.alone mem = (mem.hasMemory, mem) := rfl

@[simp] theorem hasMemory_kept : hasMemory.kept held mem = held := rfl

end Plain

@[simp] theorem setPrevOf_alone (x v : Option α) :
    (setPrevOf x v).alone mem = ((), { mem with
      link := match x with
        | some x => setPrev mem.link x v
        | none => mem.link }) := by
  cases x with
  | none => rfl
  | some x => rfl

@[simp] theorem setPrevOf_kept (x v : Option α) : (setPrevOf x v).kept held mem = held := by
  cases x with
  | none => rfl
  | some x => rfl

@[simp] theorem joinPrev_alone : (joinPrev item).alone mem = ((), { mem with
    link := match (mem.link item).prev with
      | some p => setNext mem.link p (mem.link item).next
      | none => mem.link }) := by
  rw [joinPrev, alone_bind, prevOf_alone]
  cases (mem.link item).prev with
  | none => rfl
  | some p => rfl

@[simp] theorem joinNext_alone : (joinNext item).alone mem = ((), { mem with
    link := match (mem.link item).next with
      | some n => setPrev mem.link n (mem.link item).prev
      | none => mem.link }) := by
  rw [joinNext, alone_bind, nextOf_alone]
  cases (mem.link item).next with
  | none => rfl
  | some n => rfl

@[simp] theorem dropHead_alone : (dropHead item).alone mem = ((), { mem with
    allocateditems :=
      if mem.allocateditems = some item then (mem.link item).next else mem.allocateditems }) := by
  rw [dropHead, alone_bind, alone_fetch]
  dsimp only
  split
  · rfl
  · rfl

@[simp] theorem putInFront_alone (head : Mempool α δ → Option α) :
    (putInFront item head).alone mem = ((), { mem with
      link := pushFront mem.link (head mem) item }) := by
  simp only [putInFront, alone_bind, alone_fetch, setLink_alone, nextOf_alone, setPrevOf_alone]
  rfl

@[simp] theorem joinPrev_kept : (joinPrev item).kept held mem = held := by
  rw [joinPrev, kept_bind, prevOf_alone, prevOf_kept]
  cases (mem.link item).prev with
  | none => rfl
  | some p => rfl

@[simp] theorem joinNext_kept : (joinNext item).kept held mem = held := by
  rw [joinNext, kept_bind, nextOf_alone, nextOf_kept]
  cases (mem.link item).next with
  | none => rfl
  | some n => rfl

@[simp] theorem dropHead_kept : (dropHead item).kept held mem = held := by
  rw [dropHead, kept_bind, alone_fetch, kept_fetch]
  dsimp only
  split
  · rfl
  · rfl

@[simp] theorem putInFront_kept (head : Mempool α δ → Option α) :
    (putInFront item head).kept held mem = held := by
  simp [putInFront, setLink_alone]

end Alone

/-! ## One after another -/

/-- The item becomes free. -/
def freed (mem : Mempool α δ) (item : α) : Mempool α δ :=
  { mem with link := pushFront mem.link mem.freeitems item, freeitems := some item }

/-- The item leaves the allocated list. -/
def removed (mem : Mempool α δ) (item : α) : Mempool α δ :=
  { mem with
    link := unlink mem.link item
    allocateditems :=
      if mem.allocateditems = some item then (unlink mem.link item item).next else mem.allocateditems }

/-- The item goes back to the allocator. -/
def Leaves (dynamic : Bool) (mem : Mempool α δ) (item : α) : Prop :=
  dynamic = true ∧ mem.isDynamicMemory item = true

instance (dynamic : Bool) (mem : Mempool α δ) (item : α) : Decidable (Leaves dynamic mem item) :=
  inferInstanceAs (Decidable (_ ∧ _))

/-- `put_memory` in a build with, or without, dynamic allocation. -/
def put (dynamic : Bool) (mem : Mempool α δ) (item : α) : Mempool α δ :=
  if Leaves dynamic mem item then removed mem item else freed (removed mem item) item

/-- The two builds differ for dynamic items only. -/
theorem put_eq {dynamic : Bool} {mem : Mempool α δ} {item : α}
    (same : dynamic = true ∨ mem.isDynamicMemory item = false) : put dynamic mem item = mem.putMemory item := by
  rw [put]
  by_cases own : mem.isDynamicMemory item = true
  · have leaves : Leaves dynamic mem item := ⟨same.resolve_right (by simp [own]), own⟩
    rw [if_pos leaves, Mempool.putMemory, if_pos own]
    rfl
  · have stays : ¬ Leaves dynamic mem item := fun leaves => own leaves.2
    rw [if_neg stays, Mempool.putMemory, if_neg own]
    rfl

section Alone

variable (dynamic : Bool) (mem : Mempool α δ) (item : α) (held : Nat)

@[simp] theorem putFree_alone : (putFree item).alone mem = ((), freed mem item) := by
  simp only [putFree, alone_bind, putInFront_alone, alone_store, alone_giveMutex]
  rfl

@[simp] theorem putFree_kept : (putFree item).kept held mem = held - 1 := by
  simp only [putFree, kept_bind, putInFront_kept, kept_store, kept_giveMutex]

/-- Alone, the accesses of `put_memory` make the function of the sequential model, -/
theorem putMemory_alone : (putMemory dynamic item).alone mem = ((), put dynamic mem item) := by
  simp only [putMemory, alone_bind, alone_takeMutex, joinPrev_alone, joinNext_alone, dropHead_alone]
  show (if dynamic then _ else putFree item : Code (Mempool α δ) Unit).alone (removed mem item) = _
  cases dynamic with
  | false =>
    have stays : ¬ Leaves false mem item := fun leaves => Bool.false_ne_true leaves.1
    rw [put, if_neg stays]
    exact putFree_alone _ item
  | true =>
    rw [if_pos rfl, alone_bind, alone_fetch]
    show (if mem.isDynamicMemory item then pure () else putFree item : Code _ Unit).alone (removed mem item) = _
    cases own : mem.isDynamicMemory item with
    | false =>
      have stays : ¬ Leaves true mem item := fun leaves => by
        have mine := leaves.2
        rw [own] at mine
        cases mine
      rw [put, if_neg stays]
      exact putFree_alone _ item
    | true =>
      have leaves : Leaves true mem item := ⟨rfl, own⟩
      rw [put, if_pos leaves]
      rfl

/-- It gives the mutex back unless the item goes back to the allocator. -/
theorem putMemory_kept :
    (putMemory dynamic item).kept held mem = if Leaves dynamic mem item then held + 1 else held := by
  simp only [putMemory, kept_bind, alone_takeMutex, kept_takeMutex, joinPrev_kept, joinPrev_alone,
    joinNext_kept, joinNext_alone, dropHead_kept, dropHead_alone]
  show (if dynamic then _ else putFree item : Code (Mempool α δ) Unit).kept (held + 1) (removed mem item) = _
  cases dynamic with
  | false =>
    have stays : ¬ Leaves false mem item := fun leaves => Bool.false_ne_true leaves.1
    rw [if_neg stays]
    exact putFree_kept _ item (held + 1)
  | true =>
    rw [if_pos rfl, kept_bind, alone_fetch, kept_fetch]
    show (if mem.isDynamicMemory item then pure () else putFree item : Code _ Unit).kept (held + 1)
      (removed mem item) = _
    cases own : mem.isDynamicMemory item with
    | false =>
      have stays : ¬ Leaves true mem item := fun leaves => by
        have mine := leaves.2
        rw [own] at mine
        cases mine
      rw [if_neg stays]
      exact putFree_kept _ item (held + 1)
    | true =>
      have leaves : Leaves true mem item := ⟨rfl, own⟩
      rw [if_pos leaves]
      rfl

/-- The first branch takes the head of the free list. -/
theorem takeFree_alone : takeFree.alone mem = match mem.freeitems with
    | none => (none, mem)
    | some item => (some item, mem.getFree item) := by
  rw [takeFree, alone_bind, alone_fetch]
  cases free : mem.freeitems with
  | none => rfl
  | some item =>
    simp only [alone_bind, alone_fetch, alone_store, nextOf_alone, setPrevOf_alone, putInFront_alone,
      alone_pure]
    rfl

theorem takeFree_kept : takeFree.kept held mem = held := by
  rw [takeFree, kept_bind, alone_fetch, kept_fetch]
  cases mem.freeitems with
  | none => rfl
  | some item =>
    simp only [kept_bind, alone_fetch, kept_fetch, alone_store, kept_store, nextOf_alone, nextOf_kept,
      setPrevOf_alone, setPrevOf_kept, putInFront_alone, putInFront_kept, kept_pure]

/-- What is allocated is not dynamic before it has been put. -/
theorem newItem_own (a : Allocation α δ) : (mem.newItem a).isDynamicMemory a.item = false := by
  simp [Mempool.newItem]

theorem addDynamic_alone (a : Allocation α δ) : (addDynamic a).alone mem = ((), mem.addDynamic a) := by
  simp only [addDynamic, alone_bind, alone_store, putMemory_alone, put_eq (.inl rfl)]
  rfl

theorem addDynamic_kept (a : Allocation α δ) : (addDynamic a).kept held mem = held := by
  have stays : ¬ Leaves true (mem.newItem a) a.item := fun leaves => by
    have own := leaves.2
    rw [newItem_own] at own
    cases own
  simp only [addDynamic, kept_bind, alone_store, kept_store, putMemory_alone, putMemory_kept, if_neg stays]

omit [DecidableEq α] in
theorem takeGrown_alone (grow : Code (Mempool α δ) (Option α)) :
    (takeGrown grow).alone mem = if mem.isDynamicAllowed then grow.alone mem else (none, mem) := by
  rw [takeGrown, alone_bind, alone_fetch]
  dsimp only
  split
  · rfl
  · rfl

omit [DecidableEq α] in
theorem takeGrown_kept (grow : Code (Mempool α δ) (Option α)) :
    (takeGrown grow).kept held mem = if mem.isDynamicAllowed then grow.kept held mem else held := by
  rw [takeGrown, kept_bind, alone_fetch, kept_fetch]
  dsimp only
  split
  · rfl
  · rfl

/-- Without a free item `get_memory` grows the pool, if it may. -/
theorem getMemoryOr_alone (grow : Code (Mempool α δ) (Option α)) : (getMemoryOr grow).alone mem =
    match mem.freeitems with
    | some item => (some item, mem.getFree item)
    | none => if mem.isDynamicAllowed then grow.alone mem else (none, mem) := by
  simp only [getMemoryOr, alone_bind, alone_takeMutex, hasMemory_alone, alone_giveMutex, alone_pure]
  cases free : mem.freeitems with
  | some item =>
    have rv : mem.hasMemory = true := by rw [Mempool.hasMemory, free, Option.isSome_some]
    rw [rv, cond_true, takeFree_alone, free]
  | none =>
    have rv : mem.hasMemory = false := by rw [Mempool.hasMemory, free, Option.isSome_none]
    rw [rv, cond_false, takeGrown_alone]

theorem getMemoryOr_kept (grow : Code (Mempool α δ) (Option α)) : (getMemoryOr grow).kept held mem =
    match mem.freeitems with
    | some _ => held
    | none => if mem.isDynamicAllowed then grow.kept (held + 1) mem - 1 else held := by
  simp only [getMemoryOr, kept_bind, alone_takeMutex, kept_takeMutex, hasMemory_alone, hasMemory_kept,
    kept_giveMutex, kept_pure]
  cases free : mem.freeitems with
  | some item =>
    have rv : mem.hasMemory = true := by rw [Mempool.hasMemory, free, Option.isSome_some]
    rw [rv, cond_true, takeFree_kept]
    rfl
  | none =>
    have rv : mem.hasMemory = false := by rw [Mempool.hasMemory, free, Option.isSome_none]
    rw [rv, cond_false, takeGrown_kept]
    split
    · rfl
    · rfl

/-- and so do those of `get_memory`, with the blocks the allocator has for it. -/
theorem getMemory_alone (allocations : List (Allocation α δ)) :
    (getMemory allocations).alone mem = mem.getMemory allocations := by
  induction allocations generalizing mem with
  | nil =>
    rw [getMemory, getMemoryOr_alone]
    unfold Mempool.getMemory
    rfl
  | cons a rest ih =>
    rw [getMemory, getMemoryOr_alone]
    unfold Mempool.getMemory
    cases mem.freeitems with
    | some item => rfl
    | none =>
      dsimp only
      rw [alone_bind, addDynamic_alone, ih]

theorem getMemory_kept (allocations : List (Allocation α δ)) :
    (getMemory allocations).kept held mem = held := by
  induction allocations generalizing mem held with
  | nil =>
    rw [getMemory, getMemoryOr_kept]
    cases mem.freeitems with
    | some item => rfl
    | none =>
      dsimp only
      split
      · rfl
      · rfl
  | cons a rest ih =>
    rw [getMemory, getMemoryOr_kept]
    cases mem.freeitems with
    | some item => rfl
    | none =>
      dsimp only
      rw [kept_bind, addDynamic_kept, addDynamic_alone, ih]
      split
      · rfl
      · rfl

end Alone

/-! ## Under the mutex -/

/-- The mutex is held as often as before, or, if `leaks`, more often. -/
def Near (leaks : Prop) (d d' : Nat) : Prop := d' = d ∨ leaks ∧ d ≤ d'

theorem Near.pred {leaks : Prop} {d d' : Nat} (near : Near leaks (d + 1) (d' + 1)) : Near leaks d d' := by
  rcases near with same | ⟨leaks, more⟩
  · exact .inl (Nat.succ.inj same)
  · exact .inr ⟨leaks, Nat.le_of_succ_le_succ more⟩

section Stays

variable {leaks : Prop} {d : Nat} {item : α}

section Plain

omit [DecidableEq α]

theorem stays_fetch {β : Type} (f : Mempool α δ → β) : (fetch f).Stays (· = d) d := fun _ => rfl

theorem stays_store (f : Mempool α δ → Mempool α δ) : (store f).Stays (· = d) d := fun _ => rfl

theorem hasMemory_stays : (hasMemory : Code (Mempool α δ) Bool).Stays (· = d) d := fun _ => rfl

theorem giveMutex_near : (giveMutex : Code (Mempool α δ) Unit).Stays (Near leaks d) (d + 1) := .inl rfl

end Plain

theorem setPrevOf_stays (x v : Option α) : (setPrevOf x v : Code (Mempool α δ) Unit).Stays (· = d) d := by
  cases x with
  | none => rfl
  | some x => exact stays_store _

theorem joinPrev_stays : (joinPrev item : Code (Mempool α δ) Unit).Stays (· = d) d := by
  apply (stays_fetch _).bind
  rintro prev _ rfl
  cases prev with
  | none => rfl
  | some p =>
    apply (stays_fetch _).bind
    rintro next _ rfl
    exact stays_store _

theorem joinNext_stays : (joinNext item : Code (Mempool α δ) Unit).Stays (· = d) d := by
  apply (stays_fetch _).bind
  rintro next _ rfl
  cases next with
  | none => rfl
  | some n =>
    apply (stays_fetch _).bind
    rintro prev _ rfl
    exact stays_store _

theorem dropHead_stays : (dropHead item : Code (Mempool α δ) Unit).Stays (· = d) d := by
  apply (stays_fetch _).bind
  rintro head _ rfl
  split
  · apply (stays_fetch _).bind
    rintro next _ rfl
    exact stays_store _
  · rfl

theorem putInFront_stays (head : Mempool α δ → Option α) : (putInFront item head).Stays (· = d) d := by
  apply (stays_fetch _).bind
  rintro first _ rfl
  apply (stays_store _).bind
  rintro - _ rfl
  apply (stays_fetch _).bind
  rintro next _ rfl
  apply (setPrevOf_stays next _).bind
  rintro - _ rfl
  exact stays_store _

theorem takeFree_stays : (takeFree : Code (Mempool α δ) (Option α)).Stays (· = d) d := by
  apply (stays_fetch _).bind
  rintro head _ rfl
  cases head with
  | none => rfl
  | some item =>
    apply (stays_fetch _).bind
    rintro next _ rfl
    apply (stays_store _).bind
    rintro - _ rfl
    apply (stays_fetch _).bind
    rintro first _ rfl
    apply (setPrevOf_stays first _).bind
    rintro - _ rfl
    apply (putInFront_stays _).bind
    rintro - _ rfl
    apply (stays_store _).bind
    rintro - _ rfl
    rfl

theorem putFree_stays : (putFree item : Code (Mempool α δ) Unit).Stays (Near leaks d) (d + 1) := by
  apply (putInFront_stays _).bind
  rintro - _ rfl
  apply (stays_store _).bind
  rintro - _ rfl
  exact giveMutex_near

theorem putFree_inside : (putFree item : Code (Mempool α δ) Unit).Inside leaks 0 := by
  apply (putInFront_stays _).inside
  rintro - _ rfl
  apply (stays_store _).inside
  rintro - _ rfl
  exact ⟨(), rfl⟩

/-- `put_memory` keeps the mutex only in a build with dynamic allocation. -/
theorem putMemory_guarded (dynamic : Bool) :
    (putMemory dynamic item : Code (Mempool α δ) Unit).Guarded (dynamic = true) := by
  refine ⟨_, rfl, ?_⟩
  apply joinPrev_stays.inside
  rintro - _ rfl
  apply joinNext_stays.inside
  rintro - _ rfl
  apply dropHead_stays.inside
  rintro - _ rfl
  cases dynamic with
  | false => exact putFree_inside
  | true =>
    apply (stays_fetch _).inside
    rintro own _ rfl
    cases own with
    | false => exact putFree_inside
    | true => exact rfl

/-- `put_memory` ends with the mutex held as often as before; with dynamic allocation it may be more often. -/
theorem putMemory_near (dynamic : Bool) :
    (putMemory dynamic item : Code (Mempool α δ) Unit).Stays (Near (dynamic = true) d) d := by
  show (joinPrev item >>= _ : Code (Mempool α δ) Unit).Stays _ (d + 1)
  apply joinPrev_stays.bind
  rintro - _ rfl
  apply joinNext_stays.bind
  rintro - _ rfl
  apply dropHead_stays.bind
  rintro - _ rfl
  cases dynamic with
  | false => exact putFree_stays
  | true =>
    apply (stays_fetch _).bind
    rintro own _ rfl
    cases own with
    | false => exact putFree_stays
    | true => exact .inr ⟨rfl, Nat.le_succ d⟩

theorem Near.mono {leaks' : Prop} {d' : Nat} (weaker : leaks → leaks') (near : Near leaks d d') :
    Near leaks' d d' := near.imp_right fun more => ⟨weaker more.1, more.2⟩

/-- Without leaks the mutex is held as often as before. -/
theorem Near.eq {d' : Nat} (near : Near False d d') : d' = d := near.resolve_right fun more => more.1

theorem addDynamic_near (a : Allocation α δ) : (addDynamic a).Stays (Near True d) d := by
  apply (stays_store _).bind
  rintro - _ rfl
  apply (putMemory_near true).bind
  intro _ d' near
  exact fun _ => near.mono fun _ => trivial

theorem Near.trans {d' d'' : Nat} (h : Near leaks d d') (k : Near leaks d' d'') : Near leaks d d'' := by
  rcases h with rfl | ⟨leaks, more⟩
  · exact k
  · rcases k with rfl | ⟨-, more'⟩
    · exact .inr ⟨leaks, more⟩
    · exact .inr ⟨leaks, more.trans more'⟩

section Get

variable {grow : Code (Mempool α δ) (Option α)} (near : ∀ d, grow.Stays (Near leaks d) d)

include near

/-- The branches of `get_memory`. -/
theorem branches_near (rv : Bool) : (bif rv then takeFree else takeGrown grow).Stays (Near leaks d) d := by
  cases rv with
  | true =>
    apply takeFree_stays.mono
    exact fun _ => .inl
  | false =>
    apply (stays_fetch _).bind
    rintro allowed _ rfl
    split
    · exact near _
    · exact .inl rfl

/-- `get_memory` holds it as often as before, if its second branch does. -/
theorem getMemoryOr_near : (getMemoryOr grow).Stays (Near leaks d) d := by
  show (hasMemory >>= _ : Code (Mempool α δ) (Option α)).Stays _ (d + 1)
  apply hasMemory_stays.bind
  rintro rv _ rfl
  apply (branches_near near rv).bind
  intro item d' close
  cases d' with
  | zero =>
    rcases close with e | ⟨-, more⟩
    · cases e
    · exact absurd more (Nat.not_succ_le_zero d)
  | succ d' => exact close.pred

theorem getMemoryOr_guarded : (getMemoryOr grow).Guarded leaks := by
  refine ⟨_, rfl, ?_⟩
  apply hasMemory_stays.inside
  rintro rv _ rfl
  apply (branches_near near rv).inside
  intro item d' close
  cases d' with
  | zero => exact ⟨item, rfl⟩
  | succ d' =>
    rcases close with e | ⟨leaks, -⟩
    · cases e
    · exact leaks

end Get

theorem getMemory_near (allocations : List (Allocation α δ)) :
    (getMemory allocations).Stays (Near True d) d := by
  induction allocations generalizing d with
  | nil => exact getMemoryOr_near fun _ => .inl rfl
  | cons a rest ih =>
    apply getMemoryOr_near
    intro d
    apply (addDynamic_near a).bind
    intro _ d' near
    exact ih.mono fun _ => near.trans

/-- `get_memory` keeps the mutex, if ever, only in a build with dynamic allocation. -/
theorem getMemory_guarded (dynamic : Bool) (allocations : List (Allocation α δ)) :
    (getMemory (bif dynamic then allocations else [])).Guarded (dynamic = true) := by
  cases dynamic with
  | false => exact getMemoryOr_guarded fun _ => .inl rfl
  | true =>
    cases allocations with
    | nil => exact getMemoryOr_guarded fun _ => .inl rfl
    | cons a rest =>
      apply getMemoryOr_guarded
      intro d
      apply (addDynamic_near a).bind
      intro _ d' near
      apply (getMemory_near rest).mono
      exact fun _ close => (near.trans close).imp_right fun more => ⟨rfl, more.2⟩

end Stays

end RmwMicroxrcedds.Concurrent
