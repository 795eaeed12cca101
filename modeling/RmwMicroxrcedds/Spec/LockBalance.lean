import RmwMicroxrcedds.Model.LockedEntities

/-!
# Locks are balanced

Only the items that `get_memory` allocates are marked dynamic: those embedded in elements never are, and the
pool of the static buffers does not grow. So a function can come across a dynamic item only where the item is
handed to it, or where it looks for an item in the list: `put_memory`, `rmw_destroy_guard_condition` and
`rmw_destroy_wait_set`. The first returns without its unlock then. Everything else is balanced.
-/

namespace RmwMicroxrcedds.Locked
set_option autoImplicit false

open Locks
open Growth (ItemAddr)
open Concurrent (removed freed)

variable {α : Type} {b : Build} {d : Mutex → Int}

/-! ## Where dynamic items are -/

/-- The items embedded in elements are not marked dynamic, nor are the static buffers. -/
structure SoundPool (p : PoolId) (mem : Mempool ItemAddr Growth.Element) : Prop where
  embedded : ∀ e, mem.isDynamicMemory (.mem e) = false
  fixed : p = .staticBuffer → mem.isDynamicAllowed = false
  buffers : p = .staticBuffer → ∀ item, mem.isDynamicMemory item = false

def Sound (s : Memory) : Prop := ∀ p, SoundPool p (s.pool p)

/-- Marks and permission are as they were. -/
theorem SoundPool.same {p : PoolId} {mem mem' : Mempool ItemAddr Growth.Element} (sound : SoundPool p mem)
    (marks : mem'.isDynamicMemory = mem.isDynamicMemory)
    (allowed : mem'.isDynamicAllowed = mem.isDynamicAllowed) : SoundPool p mem' where
  embedded e := by
    rw [marks]
    exact sound.embedded e
  fixed buffer := by
    rw [allowed]
    exact sound.fixed buffer
  buffers buffer item := by
    rw [marks]
    exact sound.buffers buffer item

theorem SoundPool.newItem {p : PoolId} {mem : Mempool ItemAddr Growth.Element} (sound : SoundPool p mem)
    (a : Allocation ItemAddr Growth.Element) : SoundPool p (mem.newItem a) where
  embedded e := by
    unfold Mempool.newItem
    dsimp only
    split
    · rfl
    · exact sound.embedded e
  fixed := sound.fixed
  buffers buffer item := by
    unfold Mempool.newItem
    dsimp only
    split
    · rfl
    · exact sound.buffers buffer item

/-! ## The steps -/

theorem readPool_run (p : PoolId) (t : Thread Memory Mutex) :
    readPool p t = (t.memory.pool p, t) := rfl

theorem balanced_readPool (p : PoolId) : Balanced Sound (readPool p) :=
  balanced_read.giving _

/-- What is read from a sound memory is sound. -/
theorem Shifts.readPool {p : PoolId} {f : Mempool ItemAddr Growth.Element → Prog α}
    (next : ∀ mem, SoundPool p mem → Shifts Sound d (f mem)) : Shifts Sound d (readPool p >>= f) :=
  Balanced.before_of (balanced_readPool p) (fun _ sound => sound p) next

/-- A write that keeps the pool sound. -/
theorem balanced_writePool {p : PoolId}
    {f : Mempool ItemAddr Growth.Element → Mempool ItemAddr Growth.Element}
    (keeps : ∀ mem, SoundPool p mem → SoundPool p (f mem)) : Balanced Sound (writePool p f) := by
  apply balanced_write
  intro s sound q
  dsimp only
  split
  · rename_i same
    subst same
    exact keeps _ (sound q)
  · exact sound q

theorem balanced_consult : Balanced Sound consult := balanced_unlocked fun _ sound => sound

theorem balanced_follow : Balanced Sound follow := balanced_unlocked fun _ sound => sound

theorem balanced_nextRun : Balanced Sound nextRun := balanced_unlocked fun _ sound => sound

theorem balanced_allocate : Balanced Sound allocate := balanced_unlocked fun _ sound => sound

theorem balanced_allocated (p : PoolId) : Balanced Sound (allocated p) :=
  (balanced_readPool p).giving _

/-! ## `memory.c` -/

theorem balanced_hasMemory (p : PoolId) : Balanced Sound (hasMemory p) := by
  apply Balanced.locked
  apply (balanced_readPool p).before
  intro mem
  exact Balanced.exit (balanced_pure _)

/-- The part of `put_memory` after the check for a dynamic item. -/
theorem shifts_freed (p : PoolId) (item : ItemAddr) : Shifts Sound (fun m => - once (.pool p) m)
    (do
      writePool p (freed · item)
      unlock (.pool p)) := by
  apply Balanced.before
  · exact balanced_writePool fun _ sound => sound.same rfl rfl
  · intro _
    exact shifts_unlock _

/-- `put_memory` on an item that is not marked. -/
theorem balanced_putMemory {p : PoolId} {item : ItemAddr}
    (static : ∀ mem, SoundPool p mem → mem.isDynamicMemory item = false) :
    Balanced Sound (putMemory b p item) := by
  apply Balanced.locked
  apply Shifts.readPool
  intro mem sound
  apply Balanced.before
  · exact balanced_writePool fun _ sound => sound.same rfl rfl
  · intro _
    apply Shifts.ite
    · rintro ⟨-, marked⟩
      rw [static mem sound] at marked
      cases marked
    · intro _
      exact shifts_freed p item

/-- The item embedded in an element. -/
theorem balanced_putEmbedded (p : PoolId) (e : Growth.Element) :
    Balanced Sound (putMemory b p (.mem e)) :=
  balanced_putMemory fun _ sound => sound.embedded e

/-- A static buffer is no dynamic item, so its release gives the mutex back. -/
theorem balanced_putBuffer (item : ItemAddr) : Balanced Sound (putMemory b .staticBuffer item) :=
  balanced_putMemory fun _ sound => sound.buffers rfl item

theorem putMemory_run (b : Build) (p : PoolId) (item : ItemAddr) (t : Thread Memory Mutex) :
    putMemory b p item t =
      (if b.allowDynamicAllocations ∧ (t.memory.pool p).isDynamicMemory item then pure ()
        else do
          writePool p (freed · item)
          unlock (.pool p) : Prog Unit) (writePool p (removed · item) (lock (.pool p) t).2).2 := rfl

/-- A dynamic item is put back without the unlock. -/
theorem putMemory_held (b : Build) (p : PoolId) (item : ItemAddr) (t : Thread Memory Mutex) (m : Mutex) :
    (putMemory b p item t).2.held m = t.held m +
      if b.allowDynamicAllocations ∧ (t.memory.pool p).isDynamicMemory item then once (.pool p) m else 0 := by
  rw [putMemory_run]
  by_cases dynamic : b.allowDynamicAllocations = true ∧ (t.memory.pool p).isDynamicMemory item = true
  · rw [if_pos dynamic, if_pos dynamic]
    rfl
  · rw [if_neg dynamic, if_neg dynamic]
    show t.held m + once (.pool p) m - once (.pool p) m = _
    omega

theorem putMemory_keeps (b : Build) (p : PoolId) (item : ItemAddr) {t : Thread Memory Mutex}
    (sound : Sound t.memory) : Sound (putMemory b p item t).2.memory := by
  have removes : Balanced Sound (writePool p (removed · item)) :=
    balanced_writePool fun _ sound => sound.same rfl rfl
  have start : Sound (writePool p (removed · item) (lock (.pool p) t).2).2.memory :=
    removes.keeps _ sound
  rw [putMemory_run]
  by_cases dynamic : b.allowDynamicAllocations = true ∧ (t.memory.pool p).isDynamicMemory item = true
  · rw [if_pos dynamic]
    exact start
  · rw [if_neg dynamic]
    exact (shifts_freed p item).keeps _ start

theorem shifts_takeFree (p : PoolId) : Shifts Sound (fun m => - once (.pool p) m) (takeFree p) := by
  apply (balanced_readPool p).before
  intro mem
  cases mem.freeitems with
  | none => exact Balanced.exit (balanced_pure _)
  | some item =>
    apply Balanced.before
    · apply balanced_writePool
      intro mem sound
      exact sound.same rfl rfl
    · intro _
      exact Balanced.exit (balanced_pure _)

/-- The pool of the static buffers does not get this far. -/
theorem shifts_takeGrown {p : PoolId} {grow : Prog (Option ItemAddr)}
    (grows : p ≠ .staticBuffer → Balanced Sound grow) :
    Shifts Sound (fun m => - once (.pool p) m) (takeGrown p grow) := by
  apply Shifts.readPool
  intro mem sound
  apply Shifts.ite
  · intro allowed
    have other : p ≠ .staticBuffer := by
      intro buffer
      rw [sound.fixed buffer] at allowed
      cases allowed
    apply (grows other).before
    intro item
    exact Balanced.exit (balanced_pure _)
  · intro _
    exact Balanced.exit (balanced_pure _)

/-- `get_memory` is balanced if its second branch is. -/
theorem balanced_getMemoryOr {p : PoolId} {grow : Prog (Option ItemAddr)}
    (grows : p ≠ .staticBuffer → Balanced Sound grow) : Balanced Sound (getMemoryOr p grow) := by
  apply Balanced.locked
  apply (balanced_hasMemory p).before
  intro free
  exact Shifts.ite (fun _ => shifts_takeFree p) fun _ => shifts_takeGrown grows

/-- The new item is not marked when it is put in the free list. -/
theorem balanced_enter (p : PoolId) (a : Allocation ItemAddr Growth.Element) : Balanced Sound (do
    writePool p (·.newItem a)
    putMemory b p a.item) := by
  have entered : Balanced Sound (writePool p (·.newItem a)) :=
    balanced_writePool fun _ sound => sound.newItem a
  constructor
  · intro t sound
    exact putMemory_keeps b p a.item (entered.keeps t sound)
  · intro t sound m
    have unmarked : ((writePool p (·.newItem a) t).2.memory.pool p).isDynamicMemory a.item = false := by
      simp [writePool, write, unlocked, Mempool.newItem]
    have put := putMemory_held b p a.item (writePool p (·.newItem a) t).2 m
    rw [unmarked] at put
    have same := entered.held t sound m
    rw [bind_run]
    simp only [Bool.false_eq_true, and_false, if_false] at put
    omega

theorem balanced_addDynamic {p : PoolId} (other : p ≠ .staticBuffer)
    {a : Allocation ItemAddr Growth.Element} (block : ∃ k, a.item = .heap k) :
    Balanced Sound (addDynamic b p a) := by
  obtain ⟨k, block⟩ := block
  have marks : Balanced Sound (writePool p fun mem =>
      { mem with isDynamicMemory := fun x => if x = a.item then true else mem.isDynamicMemory x }) := by
    apply balanced_writePool
    intro mem sound
    constructor
    · intro e
      dsimp only
      rw [block, if_neg (by simp)]
      exact sound.embedded e
    · intro buffer
      exact absurd buffer other
    · intro buffer
      exact absurd buffer other
  exact (balanced_enter p a).before fun _ => marks

theorem balanced_getMemoryFrom (p : PoolId) {allocations : List (Allocation ItemAddr Growth.Element)}
    (blocks : ∀ a ∈ allocations, ∃ k, a.item = .heap k) : Balanced Sound (getMemoryFrom b p allocations) := by
  induction allocations with
  | nil => exact balanced_getMemoryOr fun _ => balanced_pure _
  | cons a rest ih =>
    apply balanced_getMemoryOr
    intro other
    apply (balanced_addDynamic other (blocks a List.mem_cons_self)).before
    intro _
    exact ih fun a mem => blocks a (List.mem_cons_of_mem _ mem)

/-- **`get_memory`** is balanced in every build. -/
theorem balanced_getMemory (p : PoolId) : Balanced Sound (getMemory b p) := by
  apply Shifts.ite
  · intro _
    apply Balanced.before_of (P := fun a => ∃ k, a.item = .heap k) balanced_allocate
    · intro t _
      exact ⟨t.memory.blocks, rfl⟩
    · intro a block
      apply balanced_getMemoryFrom
      intro a' mem
      rw [List.mem_singleton.1 mem]
      exact block
  · intro _
    apply balanced_getMemoryFrom
    intro a mem
    cases mem

/-! ## The pools behind the locks -/

/-- The two parts of `put_memory`, put together. -/
theorem putMemory_eq (mem : Mempool ItemAddr Growth.Element) (item : ItemAddr) :
    mem.putMemory item = if mem.isDynamicMemory item then removed mem item
      else freed (removed mem item) item := by
  rw [← Concurrent.put_eq (.inl rfl), Concurrent.put]
  simp only [Concurrent.Leaves, true_and]

theorem writePool_pool (p : PoolId)
    (f : Mempool ItemAddr Growth.Element → Mempool ItemAddr Growth.Element) (t : Thread Memory Mutex) :
    (writePool p f t).2.memory.pool p = f (t.memory.pool p) := if_pos rfl

/-- Without its locks, `put_memory` is the one of the pools. -/
theorem putMemory_pool {p : PoolId} {item : ItemAddr} (t : Thread Memory Mutex)
    (known : (t.memory.pool p).isDynamicMemory item = true → b.allowDynamicAllocations = true) :
    (putMemory b p item t).2.memory.pool p = (t.memory.pool p).putMemory item := by
  rw [putMemory_run, putMemory_eq]
  by_cases dynamic : (t.memory.pool p).isDynamicMemory item = true
  · rw [if_pos ⟨known dynamic, dynamic⟩, if_pos dynamic]
    show (writePool p (removed · item) (lock (.pool p) t).2).2.memory.pool p = _
    rw [writePool_pool]
    rfl
  · rw [if_neg fun both => dynamic both.2, if_neg dynamic]
    show (writePool p (freed · item) (writePool p (removed · item) (lock (.pool p) t).2).2).2.memory.pool p = _
    rw [writePool_pool, writePool_pool]
    rfl

theorem takeFree_some {p : PoolId} {item : ItemAddr} {t : Thread Memory Mutex}
    (free : (t.memory.pool p).freeitems = some item) :
    takeFree p t = (some item, (unlock (.pool p) (writePool p (·.getFree item) t).2).2) := by
  unfold takeFree
  rw [bind_run, readPool_run]
  dsimp only
  rw [free]
  rfl

theorem takeGrown_run (p : PoolId) (grow : Prog (Option ItemAddr)) (t : Thread Memory Mutex) :
    takeGrown p grow t = if (t.memory.pool p).isDynamicAllowed then
      ((grow t).1, (unlock (.pool p) (grow t).2).2) else (none, (unlock (.pool p) t).2) := by
  unfold takeGrown
  rw [bind_run, readPool_run]
  dsimp only
  split
  · rfl
  · rfl

theorem getMemoryOr_run (p : PoolId) (grow : Prog (Option ItemAddr)) (t : Thread Memory Mutex) :
    getMemoryOr p grow t = (if (t.memory.pool p).hasMemory then takeFree p else takeGrown p grow)
      (unlock (.pool p) (lock (.pool p) (lock (.pool p) t).2).2).2 := rfl

theorem addDynamic_pool {p : PoolId} {a : Allocation ItemAddr Growth.Element} {t : Thread Memory Mutex} :
    (addDynamic b p a t).2.memory.pool p = (t.memory.pool p).addDynamic a := by
  have run : (addDynamic b p a t).2 = (writePool p (fun mem =>
      { mem with isDynamicMemory := fun x => if x = a.item then true else mem.isDynamicMemory x })
      (putMemory b p a.item (writePool p (·.newItem a) t).2).2).2 := rfl
  have unmarked : ((writePool p (·.newItem a) t).2.memory.pool p).isDynamicMemory a.item = false := by
    rw [writePool_pool]
    simp [Mempool.newItem]
  have known : ((writePool p (·.newItem a) t).2.memory.pool p).isDynamicMemory a.item = true →
      b.allowDynamicAllocations = true := fun marked => by
    rw [unmarked] at marked
    cases marked
  have put := putMemory_pool (writePool p (·.newItem a) t).2 known
  rw [run, writePool_pool, put, writePool_pool]
  rfl

theorem takeFree_pool {p : PoolId} {item : ItemAddr} {t : Thread Memory Mutex}
    (free : (t.memory.pool p).freeitems = some item) : (takeFree p t).1 = some item ∧
      (takeFree p t).2.memory.pool p = (t.memory.pool p).getFree item := by
  rw [takeFree_some free]
  exact ⟨rfl, writePool_pool p (·.getFree item) t⟩

theorem lock_memory (m : Mutex) (t : Thread Memory Mutex) : (lock m t).2.memory = t.memory := rfl

theorem unlock_memory (m : Mutex) (t : Thread Memory Mutex) : (unlock m t).2.memory = t.memory := rfl

/-- The two locks `get_memory` takes before its branches leave the pools alone. -/
theorem getMemoryOr_locked (p : PoolId) (grow : Prog (Option ItemAddr)) (t : Thread Memory Mutex) :
    ∃ u, u.memory = t.memory ∧ getMemoryOr p grow t =
      (if (t.memory.pool p).hasMemory then takeFree p else takeGrown p grow) u := by
  rw [getMemoryOr_run]
  generalize entered : (unlock (.pool p) (lock (.pool p) (lock (.pool p) t).2).2).2 = u
  refine ⟨u, ?_, rfl⟩
  rw [← entered, unlock_memory, lock_memory, lock_memory]

theorem getMemoryOr_free {p : PoolId} {grow : Prog (Option ItemAddr)} {item : ItemAddr}
    {t : Thread Memory Mutex} (free : (t.memory.pool p).freeitems = some item) :
    (getMemoryOr p grow t).1 = some item ∧
      (getMemoryOr p grow t).2.memory.pool p = (t.memory.pool p).getFree item := by
  have has : (t.memory.pool p).hasMemory = true := by
    unfold Mempool.hasMemory
    rw [free]
    rfl
  obtain ⟨u, same, run⟩ := getMemoryOr_locked p grow t
  rw [run, if_pos has, ← same]
  exact takeFree_pool (same ▸ free)

theorem getMemoryOr_empty (p : PoolId) (grow : Prog (Option ItemAddr)) {t : Thread Memory Mutex}
    (empty : (t.memory.pool p).freeitems = none) : ∃ u, u.memory = t.memory ∧
      getMemoryOr p grow t = takeGrown p grow u := by
  have has : ¬ (t.memory.pool p).hasMemory = true := by
    unfold Mempool.hasMemory
    rw [empty]
    exact Bool.false_ne_true
  obtain ⟨u, same, run⟩ := getMemoryOr_locked p grow t
  rw [if_neg has] at run
  exact ⟨u, same, run⟩

/-- Without its locks, `get_memory` is the one of the pools. -/
theorem getMemoryFrom_pool (p : PoolId) (allocations : List (Allocation ItemAddr Growth.Element))
    (t : Thread Memory Mutex) :
    (getMemoryFrom b p allocations t).1 = ((t.memory.pool p).getMemory allocations).1 ∧
      (getMemoryFrom b p allocations t).2.memory.pool p =
        ((t.memory.pool p).getMemory allocations).2 := by
  induction allocations generalizing t with
  | nil =>
    unfold getMemoryFrom Mempool.getMemory
    cases free : (t.memory.pool p).freeitems with
    | some item => exact getMemoryOr_free free
    | none =>
      obtain ⟨u, same, run⟩ := getMemoryOr_empty p (return none) free
      rw [run, takeGrown_run, same]
      by_cases allowed : (t.memory.pool p).isDynamicAllowed = true
      · rw [if_pos allowed, if_pos allowed, ← same]
        exact ⟨rfl, rfl⟩
      · rw [if_neg allowed, if_neg allowed, ← same]
        exact ⟨rfl, rfl⟩
  | cons a rest ih =>
    unfold getMemoryFrom Mempool.getMemory
    cases free : (t.memory.pool p).freeitems with
    | some item => exact getMemoryOr_free free
    | none =>
      obtain ⟨u, same, run⟩ := getMemoryOr_empty p
        (do addDynamic b p a; getMemoryFrom b p rest) free
      rw [run, takeGrown_run, same]
      by_cases allowed : (t.memory.pool p).isDynamicAllowed = true
      · rw [if_pos allowed, if_pos allowed, ← same]
        have grown := ih (addDynamic b p a u).2
        rw [addDynamic_pool] at grown
        exact grown
      · rw [if_neg allowed, if_neg allowed, ← same]
        exact ⟨rfl, rfl⟩

/-! ## The static input buffers -/

theorem balanced_countOwned (items : List ItemAddr) (count : Nat) :
    Balanced Sound (countOwned items count) := by
  induction items generalizing count with
  | nil => exact balanced_pure _
  | cons item rest ih =>
    apply balanced_consult.before
    intro owned
    exact Shifts.ite (fun _ => ih _) fun _ => ih _

theorem balanced_count : Balanced Sound rmwUxrceCountStaticInputBufferForEntity := by
  apply Balanced.locked
  apply (balanced_allocated _).before
  intro items
  apply (balanced_countOwned items 0).before
  intro count
  exact Balanced.exit (balanced_pure _)

theorem balanced_findOldest (items : List ItemAddr) (ret : Option ItemAddr) :
    Balanced Sound (findOldest items ret) := by
  induction items generalizing ret with
  | nil => exact balanced_pure _
  | cons item rest ih =>
    apply balanced_consult.before
    intro older
    exact Shifts.ite (fun _ => ih _) fun _ => ih _

theorem balanced_find : Balanced Sound rmwUxrceFindStaticInputBufferByOwner := by
  apply Balanced.locked
  apply (balanced_allocated _).before
  intro items
  apply (balanced_findOldest items none).before
  intro ret
  exact Balanced.exit (balanced_pure _)

theorem balanced_choose (qos : RmwQosProfile) (count : Nat) :
    Balanced Sound (chooseStaticInputBuffer b qos count) := by
  have room : ∀ full : Prog (Option ItemAddr), Balanced Sound full → Balanced Sound
      (if qos.depth = 0 ∨ count < qos.depth then getMemory b .staticBuffer else full) :=
    fun full h => Shifts.ite (fun _ => balanced_getMemory _) fun _ => h
  unfold chooseStaticInputBuffer
  cases qos.history with
  | keepAll => exact room _ (balanced_pure _)
  | _ => exact room _ balanced_find

theorem balanced_get (qos : RmwQosProfile) :
    Balanced Sound (rmwUxrceGetStaticInputBufferForEntity b qos) := by
  apply Balanced.locked
  apply balanced_count.before
  intro count
  apply (balanced_choose qos count).before
  intro ret
  exact Balanced.exit (balanced_pure _)

theorem balanced_cleanLoop (fuel : Nat) (item : Option ItemAddr) :
    Balanced Sound (cleanLoop b fuel item) := by
  induction fuel generalizing item with
  | zero => exact balanced_pure _
  | succ fuel ih =>
    cases item with
    | none => exact balanced_pure _
    | some item =>
      apply (balanced_readPool _).before
      intro mem
      apply balanced_consult.before
      intro late
      apply Shifts.ite
      · intro _
        exact (balanced_putBuffer item).before fun _ => ih _
      · intro _
        exact ih _

/-- The cleaning takes and gives back the mutex of the static buffers. -/
theorem balanced_clean : Balanced Sound (rmwUxrceCleanExpiredStaticInputBuffer b) := by
  apply Balanced.locked
  apply (balanced_readPool _).before
  intro mem
  exact (balanced_cleanLoop _ _).before fun _ => shifts_unlock _

/-! ## Callbacks and sessions -/

/-- What the callbacks do with a sample. -/
theorem balanced_receive (qos : RmwQosProfile) (items : List ItemAddr) :
    Balanced Sound (receive b qos items) := by
  induction items with
  | nil => exact balanced_pure _
  | cons item rest ih =>
    apply balanced_consult.before
    intro meant
    apply Shifts.ite
    · intro _
      apply Balanced.locked
      apply (balanced_get qos).before
      intro found
      cases found with
      | none => exact shifts_unlock _
      | some memoryNode =>
        apply balanced_consult.before
        intro unread
        apply Shifts.ite
        · intro _
          exact (balanced_putBuffer memoryNode).before fun _ => shifts_unlock _
        · intro _
          exact shifts_unlock _
    · intro _
      exact ih

/-- **Callbacks** are balanced, -/
theorem balanced_callback (c : Callback) : Balanced Sound (c.run b) := by
  cases c with
  | topic qos =>
    have isForGraph : Balanced Sound (isForGraph b) :=
      Shifts.ite (fun _ => balanced_consult) fun _ => balanced_pure _
    apply isForGraph.before
    intro graph
    apply Shifts.ite
    · intro _
      exact balanced_pure _
    · intro _
      exact (balanced_allocated _).before fun items => balanced_receive qos items
  | request qos => exact (balanced_allocated _).before fun items => balanced_receive qos items
  | reply qos => exact (balanced_allocated _).before fun items => balanced_receive qos items

/-- so a run of a session is, whatever comes in during it. -/
theorem balanced_runSession : Balanced Sound (runSession b) := by
  apply balanced_nextRun.before
  intro run
  exact (balanced_forM balanced_callback).giving _

theorem balanced_runXrceSession : Balanced Sound (runXrceSession b) := by
  apply balanced_consult.before
  intro bestEffort
  exact Shifts.ite (fun _ => balanced_pure _) fun _ => balanced_runSession

/-! ## `rmw_wait` and the takes -/

theorem balanced_runSessions (items : List ItemAddr) : Balanced Sound (runSessions b items) := by
  induction items with
  | nil => exact balanced_pure _
  | cons item rest ih =>
    apply balanced_consult.before
    intro needToBeRan
    apply Shifts.ite
    · intro _
      exact balanced_runSession.before fun _ => ih
    · intro _
      exact ih

theorem balanced_checkEntries (entries : List Nat) (bufferedStatus : Bool) :
    Balanced Sound (checkEntries entries bufferedStatus) := by
  induction entries generalizing bufferedStatus with
  | nil => exact balanced_pure _
  | cons entry rest ih => exact balanced_find.before fun _ => ih _

theorem balanced_checkGuardConditions (entries : List Nat) (bufferedStatus : Bool) :
    Balanced Sound (checkGuardConditions entries bufferedStatus) := by
  induction entries generalizing bufferedStatus with
  | nil => exact balanced_pure _
  | cons entry rest ih => exact balanced_consult.before fun _ => ih _

theorem balanced_waitSessions : Balanced Sound (waitSessions b) := by
  apply (balanced_allocated _).before
  intro sessions
  apply balanced_consult.before
  intro available
  apply Shifts.ite
  · intro _
    exact balanced_runSessions sessions
  · intro _
    exact balanced_forM fun _ => balanced_runSession.giving _

theorem balanced_checkWaitSet (set : WaitSet Nat) : Balanced Sound (checkWaitSet set) := by
  apply (balanced_checkEntries _ _).before
  intro _
  apply (balanced_checkEntries _ _).before
  intro _
  apply (balanced_checkEntries _ _).before
  intro _
  apply (balanced_checkGuardConditions _ _).before
  intro _
  exact balanced_pure _

/-- **`rmw_wait`** gives its own mutex back on both exits. -/
theorem balanced_wait (set : WaitSet Nat) : Balanced Sound (rmwWait b set) := by
  apply Balanced.locked
  apply Shifts.ite
  · intro _
    exact Balanced.exit (balanced_pure _)
  · intro _
    apply balanced_clean.before
    intro _
    apply balanced_waitSessions.before
    intro _
    exact Balanced.exit (balanced_checkWaitSet set)

/-- **The take functions** are balanced, with a message or without. -/
theorem balanced_take : Balanced Sound (take b) := by
  apply balanced_consult.before
  intro foreign
  apply Shifts.ite
  · intro _
    exact balanced_pure _
  · intro _
    apply balanced_clean.before
    intro _
    apply Balanced.locked
    apply balanced_find.before
    intro found
    cases found with
    | none => exact Balanced.exit (balanced_pure _)
    | some staticBufferItem =>
      apply balanced_consult.before
      intro deserializeRv
      apply (balanced_putBuffer staticBufferItem).before
      intro _
      exact Balanced.exit (balanced_pure _)

theorem balanced_takeSequenceLoop (count : Nat) (ret : RmwRet) :
    Balanced Sound (takeSequenceLoop b count ret) := by
  induction count generalizing ret with
  | zero => exact balanced_pure _
  | succ count ih =>
    apply Balanced.before (p := rmwTakeWithInfo b) balanced_take
    intro ret
    exact Shifts.ite (fun _ => balanced_pure _) fun _ => ih _

theorem balanced_takeSequence (count : Nat) : Balanced Sound (rmwTakeSequence b count) := by
  apply balanced_consult.before
  intro foreign
  exact Shifts.ite (fun _ => balanced_pure _) fun _ => balanced_takeSequenceLoop _ _

/-! ## The create and destroy functions -/

theorem balanced_dataOf (p : PoolId) (memoryNode : ItemAddr) : Balanced Sound (dataOf p memoryNode) :=
  (balanced_readPool p).giving _

theorem balanced_finiMemory (p : PoolId) (custom : Growth.Element) :
    Balanced Sound (finiMemory b p custom) := by
  apply balanced_consult.before
  intro foreign
  apply Shifts.ite
  · intro _
    exact balanced_pure _
  · intro _
    apply balanced_consult.before
    intro null
    exact Shifts.ite (fun _ => balanced_pure _) fun _ => balanced_putEmbedded p custom

theorem balanced_createTopic : Balanced Sound (createTopic b) := by
  apply (balanced_getMemory _).before
  intro memoryNode
  cases memoryNode with
  | none => exact balanced_pure _
  | some memoryNode =>
    apply (balanced_dataOf _ _).before
    intro customTopic
    apply balanced_consult.before
    intro long
    apply Shifts.ite
    · intro _
      exact (balanced_putEmbedded _ _).giving _
    · intro _
      apply balanced_runXrceSession.before
      intro confirmed
      exact Shifts.ite (fun _ => balanced_pure _) fun _ => (balanced_putEmbedded _ _).giving _

theorem balanced_destroyTopic (topic : Growth.Element) : Balanced Sound (destroyTopic b topic) := by
  apply balanced_consult.before
  intro orphaned
  apply Shifts.ite
  · intro _
    exact balanced_pure _
  · intro _
    apply balanced_runXrceSession.before
    intro confirmed
    exact (balanced_putEmbedded _ _).giving _

/-- The body that the creations of publishers and subscriptions have in common. -/
theorem balanced_createEndpointBody : Balanced Sound (createEndpointBody b) := by
  apply balanced_consult.before
  intro bad
  apply Shifts.ite
  · intro _
    exact balanced_pure _
  · intro _
    apply balanced_createTopic.before
    intro topic
    cases topic with
    | none => exact balanced_pure _
    | some topic =>
      apply balanced_runXrceSession.before
      intro first
      apply Shifts.ite
      · intro _
        apply balanced_consult.before
        intro long
        exact Shifts.ite (fun _ => balanced_pure _) fun _ => balanced_runXrceSession
      · intro _
        exact balanced_pure _

theorem balanced_createEndpoint (p : PoolId) : Balanced Sound (createEndpoint b p) := by
  apply balanced_consult.before
  intro bad
  apply Shifts.ite
  · intro _
    exact balanced_pure _
  · intro _
    apply (balanced_getMemory _).before
    intro memoryNode
    cases memoryNode with
    | none => exact balanced_pure _
    | some memoryNode =>
      apply (balanced_dataOf _ _).before
      intro custom
      apply balanced_createEndpointBody.before
      intro created
      apply Shifts.ite
      · intro _
        exact balanced_pure _
      · intro _
        apply balanced_consult.before
        intro topic
        apply Shifts.ite
        · intro _
          apply balanced_follow.before
          intro topic
          apply (balanced_putEmbedded _ topic).before
          intro _
          exact (balanced_finiMemory p custom).giving _
        · intro _
          exact (balanced_finiMemory p custom).giving _

theorem balanced_deleteEndpoint (p : PoolId) (custom : Growth.Element) :
    Balanced Sound (deleteEndpoint b p custom) := by
  apply balanced_follow.before
  intro topic
  apply (balanced_destroyTopic topic).before
  intro _
  apply balanced_runXrceSession.before
  intro first
  apply balanced_runXrceSession.before
  intro second
  exact (balanced_finiMemory p custom).giving _

/-- **`rmw_destroy_publisher`** -/
theorem balanced_destroyPublisher (publisher : Growth.Element) :
    Balanced Sound (rmwDestroyPublisher b publisher) := by
  apply balanced_consult.before
  intro refused
  exact Shifts.ite (fun _ => balanced_pure _) fun _ => balanced_deleteEndpoint _ _

/-- **`rmw_destroy_subscription`** -/
theorem balanced_destroySubscription (subscription : Growth.Element) :
    Balanced Sound (rmwDestroySubscription b subscription) := by
  apply balanced_consult.before
  intro refused
  apply Shifts.ite
  · intro _
    exact balanced_pure _
  · intro _
    exact balanced_runXrceSession.before fun _ => balanced_deleteEndpoint _ _

theorem balanced_createServiceEntity (p : PoolId) : Balanced Sound (createServiceEntity b p) := by
  apply balanced_consult.before
  intro bad
  apply Shifts.ite
  · intro _
    exact balanced_pure _
  · intro _
    apply (balanced_getMemory _).before
    intro memoryNode
    cases memoryNode with
    | none => exact balanced_pure _
    | some memoryNode =>
      apply (balanced_dataOf _ _).before
      intro custom
      apply balanced_consult.before
      intro failed
      apply Shifts.ite
      · intro _
        exact (balanced_finiMemory p custom).giving _
      · intro _
        apply balanced_runXrceSession.before
        intro confirmed
        exact Shifts.ite (fun _ => balanced_pure _) fun _ => (balanced_finiMemory p custom).giving _

theorem balanced_destroyServiceEntity (p : PoolId) (custom : Growth.Element) :
    Balanced Sound (destroyServiceEntity b p custom) := by
  apply balanced_consult.before
  intro refused
  apply Shifts.ite
  · intro _
    exact balanced_pure _
  · intro _
    apply balanced_runXrceSession.before
    intro cancelled
    apply balanced_runXrceSession.before
    intro confirmed
    exact (balanced_finiMemory p custom).giving _

/-- **`rmw_create_node`** -/
theorem balanced_createNode : Balanced Sound (rmwCreateNode b) := by
  apply balanced_consult.before
  intro bad
  apply Shifts.ite
  · intro _
    exact balanced_pure _
  · intro _
    apply (balanced_getMemory _).before
    intro memoryNode
    cases memoryNode with
    | none => exact balanced_pure _
    | some memoryNode =>
      apply (balanced_dataOf _ _).before
      intro customNode
      apply balanced_consult.before
      intro long
      apply Shifts.ite
      · intro _
        exact (balanced_finiMemory _ customNode).giving _
      · intro _
        apply balanced_consult.before
        intro unfit
        apply Shifts.ite
        · intro _
          exact balanced_pure _
        · intro _
          apply balanced_runXrceSession.before
          intro confirmed
          exact Shifts.ite (fun _ => balanced_pure _) fun _ =>
            (balanced_finiMemory _ customNode).giving _

theorem balanced_destroyLoop {p : PoolId} {destroy : Growth.Element → Prog RmwRet}
    (each : ∀ custom, Balanced Sound (destroy custom)) (fuel : Nat) (item : Option ItemAddr) :
    Balanced Sound (destroyLoop p destroy fuel item) := by
  induction fuel generalizing item with
  | zero => exact balanced_pure _
  | succ fuel ih =>
    cases item with
    | none => exact balanced_pure _
    | some item =>
      apply (balanced_dataOf _ _).before
      intro custom
      apply (balanced_readPool _).before
      intro mem
      apply balanced_consult.before
      intro mine
      apply Shifts.ite
      · intro _
        apply (each custom).before
        intro ret
        exact Shifts.ite (fun _ => balanced_pure _) fun _ => ih _
      · intro _
        exact ih _

theorem balanced_destroyAll {p : PoolId} {destroy : Growth.Element → Prog RmwRet}
    (each : ∀ custom, Balanced Sound (destroy custom)) : Balanced Sound (destroyAll p destroy) :=
  (balanced_readPool _).before fun _ => balanced_destroyLoop each _ _

/-- **`rmw_destroy_node`** is as balanced as what it destroys. -/
theorem balanced_destroyNode (node : Growth.Element) : Balanced Sound (rmwDestroyNode b node) := by
  -- a loop that may end the function
  have next : ∀ {p : PoolId} {destroy : Growth.Element → Prog RmwRet} {rest : Prog RmwRet},
      (∀ custom, Balanced Sound (destroy custom)) → Balanced Sound rest → Balanced Sound (do
        if ← destroyAll p destroy then return .error else rest) := by
    intro p destroy rest each last
    apply (balanced_destroyAll each).before
    intro stopped
    exact Shifts.ite (fun _ => balanced_pure _) fun _ => last
  apply balanced_consult.before
  intro refused
  apply Shifts.ite
  · intro _
    exact balanced_pure _
  · intro _
    apply next balanced_destroyPublisher
    apply next balanced_destroySubscription
    apply next fun custom => balanced_destroyServiceEntity _ custom
    apply next fun custom => balanced_destroyServiceEntity _ custom
    apply balanced_runXrceSession.before
    intro confirmed
    apply (balanced_finiMemory _ node).before
    intro _
    exact balanced_consult.giving _

theorem balanced_createHolder (p : PoolId) : Balanced Sound (createHolder b p) := by
  apply (balanced_getMemory _).before
  intro memoryNode
  cases memoryNode with
  | none => exact balanced_pure _
  | some memoryNode => exact (balanced_dataOf _ _).giving _

/-! ## All calls -/

/-- The item that a call is given to put back, or finds in a list in order to put it back. -/
def LockCall.returned (s : Memory) : LockCall → Option (PoolId × ItemAddr)
  | .putMemory p item => some (p, item)
  | .destroyGuardCondition guardCondition =>
    (itemOf (s.pool .guardCondition) guardCondition).map fun item => (.guardCondition, item)
  | .destroyWaitSet waitSet => (itemOf (s.pool .waitSet) waitSet).map fun item => (.waitSet, item)
  | _ => none

/-- That item is a dynamic one, in a build that has a branch for such items. -/
def LockCall.PutsDynamic (b : Build) (s : Memory) (c : LockCall) : Prop :=
  ∃ p item, c.returned s = some (p, item) ∧ b.allowDynamicAllocations = true ∧
    (s.pool p).isDynamicMemory item = true

/-- A holder that is in no item of the pool changes nothing. -/
theorem destroyHolder_none {p : PoolId} {holder : Growth.Element} {t : Thread Memory Mutex}
    (absent : itemOf (t.memory.pool p) holder = none) : (destroyHolder b p holder t).2 = t := by
  unfold destroyHolder
  rw [bind_run, readPool_run]
  dsimp only
  rw [absent]
  rfl

/-- A holder that is found is put back. -/
theorem destroyHolder_some {p : PoolId} {holder : Growth.Element} {t : Thread Memory Mutex}
    {item : ItemAddr} (found : itemOf (t.memory.pool p) holder = some item) :
    (destroyHolder b p holder t).2 = (putMemory b p item t).2 := by
  unfold destroyHolder
  rw [bind_run, readPool_run]
  dsimp only
  rw [found]
  rfl

/-- A call that puts back the item it is given or finds does nothing else. -/
theorem LockCall.run_returned {c : LockCall} {t : Thread Memory Mutex} {p : PoolId} {item : ItemAddr}
    (returned : c.returned t.memory = some (p, item)) : (c.run b t).2 = (Locked.putMemory b p item t).2 := by
  cases c with
  | putMemory p' item' =>
    cases returned
    rfl
  | destroyGuardCondition guardCondition =>
    obtain ⟨item', found, same⟩ := Option.map_eq_some_iff.1 returned
    cases same
    exact destroyHolder_some found
  | destroyWaitSet waitSet =>
    obtain ⟨item', found, same⟩ := Option.map_eq_some_iff.1 returned
    cases same
    exact destroyHolder_some found
  | _ => cases returned

/-- The call is neither `put_memory` nor one of the two destructions that look for an item. -/
def LockCall.NeverPuts : LockCall → Prop
  | .putMemory .. | .destroyGuardCondition _ | .destroyWaitSet _ => False
  | _ => True

theorem LockCall.balanced (c : LockCall) (never : c.NeverPuts) : Balanced Sound (c.run b) := by
  cases c with
  | hasMemory p => exact (balanced_hasMemory p).giving _
  | getMemory p => exact (balanced_getMemory p).giving _
  | putMemory p item => exact never.elim
  | countStaticInputBuffer => exact balanced_count.giving _
  | getStaticInputBuffer qos => exact (balanced_get qos).giving _
  | findStaticInputBuffer => exact balanced_find.giving _
  | cleanExpiredStaticInputBuffer => exact balanced_clean
  | callback c => exact balanced_callback c
  | wait set => exact (balanced_wait set).giving _
  | takeWithInfo => exact balanced_take.giving _
  | takeSequence count => exact (balanced_takeSequence count).giving _
  | takeRequest => exact balanced_take.giving _
  | takeResponse => exact balanced_take.giving _
  | createNode => exact balanced_createNode.giving _
  | createPublisher => exact (balanced_createEndpoint _).giving _
  | createSubscription => exact (balanced_createEndpoint _).giving _
  | createService => exact (balanced_createServiceEntity _).giving _
  | createClient => exact (balanced_createServiceEntity _).giving _
  | createGuardCondition => exact (balanced_createHolder _).giving _
  | createWaitSet => exact (balanced_createHolder _).giving _
  | destroyNode node => exact (balanced_destroyNode node).giving _
  | destroyPublisher publisher => exact (balanced_destroyPublisher publisher).giving _
  | destroySubscription subscription => exact (balanced_destroySubscription subscription).giving _
  | destroyService service => exact (balanced_destroyServiceEntity _ service).giving _
  | destroyClient client => exact (balanced_destroyServiceEntity _ client).giving _
  | destroyGuardCondition guardCondition => exact never.elim
  | destroyWaitSet waitSet => exact never.elim

/-- A call that is given no item and finds none is balanced. -/
theorem LockCall.held_of_none {c : LockCall} {t : Thread Memory Mutex} (sound : Sound t.memory)
    (none : c.returned t.memory = none) : (c.run b t).2.held = t.held := by
  by_cases never : c.NeverPuts
  · exact (c.balanced never).held_eq sound
  · cases c with
    | putMemory p item => cases none
    | destroyGuardCondition guardCondition =>
      exact congrArg Thread.held (destroyHolder_none (Option.map_eq_none_iff.1 none))
    | destroyWaitSet waitSet =>
      exact congrArg Thread.held (destroyHolder_none (Option.map_eq_none_iff.1 none))
    | _ => exact absurd trivial never

theorem destroyHolder_keeps {p : PoolId} {holder : Growth.Element} {t : Thread Memory Mutex}
    (sound : Sound t.memory) : Sound (destroyHolder b p holder t).2.memory := by
  cases found : itemOf (t.memory.pool p) holder with
  | none =>
    rw [destroyHolder_none found]
    exact sound
  | some item =>
    rw [destroyHolder_some found]
    exact putMemory_keeps b p item sound

/-- Every call leaves a sound memory. -/
theorem LockCall.keeps (c : LockCall) {t : Thread Memory Mutex} (sound : Sound t.memory) :
    Sound (c.run b t).2.memory := by
  by_cases never : c.NeverPuts
  · exact (c.balanced never).keeps _ sound
  · cases c with
    | putMemory p item => exact putMemory_keeps b p item sound
    | destroyGuardCondition guardCondition => exact destroyHolder_keeps sound
    | destroyWaitSet waitSet => exact destroyHolder_keeps sound
    | _ => exact absurd trivial never

/-- A sound memory. -/
abbrev SoundMemory := { s : Memory // Sound s }

/-- **Locks are balanced**: after any call, every mutex is held exactly as often as before, if and only
if the call does not put back a dynamic item, be it given to `put_memory` or found in its list by
`rmw_destroy_guard_condition` or `rmw_destroy_wait_set`. -/
theorem locks_balanced_iff (b : Build) (s : SoundMemory) (held : Mutex → Int) (c : LockCall) :
    (c.run b ⟨s, held⟩).2.held = held ↔ ¬ c.PutsDynamic b s := by
  have sound : Sound (Thread.mk s.1 held).memory := s.2
  cases returned : c.returned s.1 with
  | none =>
    apply iff_of_true (LockCall.held_of_none sound returned)
    rintro ⟨p, item, same, -⟩
    cases returned.symm.trans same
  | some found =>
    obtain ⟨p, item⟩ := found
    have put : (c.run b ⟨s, held⟩).2 = (putMemory b p item ⟨s, held⟩).2 :=
      LockCall.run_returned returned
    have count := putMemory_held b p item ⟨s, held⟩
    rw [put]
    constructor
    · rintro same ⟨p', item', returned', dynamic⟩
      cases returned.symm.trans returned'
      have more := count (.pool p)
      rw [if_pos dynamic, same, once, if_pos rfl] at more
      dsimp only at more
      omega
    · intro plain
      have static : ¬ (b.allowDynamicAllocations = true ∧ (s.1.pool p).isDynamicMemory item = true) :=
        fun dynamic => plain ⟨p, item, returned, dynamic⟩
      funext m
      have same := count m
      rw [if_neg static] at same
      dsimp only at same
      omega

/-! ## Runs -/

theorem init_marks (size : Nat) (item : ItemAddr) :
    ((Mempool.zero : Mempool ItemAddr Growth.Element).init .array
      (fun i => .mem (.array i)) size).isDynamicMemory item = false := by
  have unmarked : ∀ (l : List Nat) (mem : Mempool ItemAddr Growth.Element),
      (∀ item, mem.isDynamicMemory item = false) → ∀ item, (l.foldl (fun memory i =>
        let memory := memory.putMemory (.mem (.array i))
        { memory with
          data := fun x => if x = .mem (.array i) then some (.array i) else memory.data x
          isDynamicMemory := fun x => if x = .mem (.array i) then false else memory.isDynamicMemory x })
        mem).isDynamicMemory item = false := by
    intro l
    induction l with
    | nil => exact fun _ start => start
    | cons i l ih =>
      intro mem start
      apply ih
      intro item
      dsimp only
      split
      · rfl
      · unfold Mempool.putMemory
        dsimp only
        split
        · exact start item
        · exact start item
  unfold Mempool.init
  split
  · exact unmarked _ _ (fun _ => rfl) item
  · rfl

/-- The pools are sound to begin with. -/
theorem sound_initial (sizes : PoolId → Nat) : Sound (Memory.initial sizes) := by
  intro p
  unfold Memory.initial
  dsimp only
  split
  · exact ⟨fun e => init_marks _ _, fun _ => rfl, fun _ item => init_marks _ _⟩
  · rename_i other
    exact ⟨fun e => init_marks _ _, fun buffer => absurd buffer other, fun buffer => absurd buffer other⟩

/-- The memory is sound in every run. -/
theorem sound_of_run (b : Build) {t : Thread Memory Mutex} (start : Sound t.memory) (is : List LockStep) :
    Sound (Runs.exec (lockStep b) t is).memory := by
  induction is generalizing t with
  | nil => exact start
  | cons i is ih => exact ih (i.call.keeps start)

/-- In a run whose calls put back no dynamic item, no mutex is held between the calls. -/
theorem unheld_of_run (b : Build) (sizes : PoolId → Nat) (is : List LockStep)
    (plain : Runs.Always (lockStep b) (fun t i => ¬ i.call.PutsDynamic b t.memory)
      ⟨Memory.initial sizes, fun _ => 0⟩ is) :
    (Runs.exec (lockStep b) ⟨Memory.initial sizes, fun _ => 0⟩ is).held = fun _ => 0 := by
  have both := Runs.invariant_exec (I := fun t => Sound t.memory ∧ t.held = fun _ => 0)
    (fun t i state plain => ?_) ⟨sound_initial sizes, rfl⟩ plain
  · exact both.2
  · obtain ⟨sound, unheld⟩ := state
    refine ⟨i.call.keeps sound, ?_⟩
    have same := (locks_balanced_iff b ⟨{ t.memory with
      conditions := i.conditions, pointers := i.pointers, runs := i.runs }, sound⟩ t.held i.call).2 plain
    exact same.trans unheld

/-- In a build with dynamic allocations and one guard condition, two are created and the second is
destroyed: the mutex of their pool stays locked. -/
theorem dynamic_guard_condition_leaks :
    let b : Build := ⟨true, false⟩
    let s := Memory.initial fun _ => 1
    let create : LockStep := ⟨.createGuardCondition, [], [], []⟩
    let created := Runs.exec (lockStep b) ⟨s, fun _ => 0⟩ [create, create]
    let t := lockStep b created ⟨.destroyGuardCondition (.heap 1), [], [], []⟩
    created.held (.pool .guardCondition) = 0 ∧ t.held (.pool .guardCondition) = 1 ∧
      (itemOf (created.memory.pool .guardCondition) (.heap 1)).isSome ∧
      itemOf (t.memory.pool .guardCondition) (.heap 1) = none := by
  decide +kernel

end RmwMicroxrcedds.Locked
