import RmwMicroxrcedds.Pool.Concurrent

/-!
# The pools under concurrent calls

Any number of threads call `has_memory`, `get_memory` and `put_memory` on any number of pools, and move one
access at a time, in any order.
-/

namespace RmwMicroxrcedds.Concurrent
set_option autoImplicit false
open Threads Threads.Code Discipline

variable {α δ ι Tid : Type} [DecidableEq α] [DecidableEq ι] [DecidableEq Tid]

/-! ## Calls -/

inductive PoolOp (α δ : Type) where
  | has
  /-- with the blocks the allocator would have for it -/
  | get (allocations : List (Allocation α δ))
  | put (item : α)

inductive PoolResult (α : Type) where
  | has (rv : Bool)
  | got (item : Option α)
  | put
deriving DecidableEq

def PoolOp.code (dynamic : Bool) : PoolOp α δ → Code (Mempool α δ) (PoolResult α)
  | .has => do
    let rv ← hasMemory
    return .has rv
  | .get allocations => do
    let item ← getMemory (bif dynamic then allocations else [])
    return .got item
  | .put item => do
    putMemory dynamic item
    return .put

/-- Calls on the pools, each with its own mutex. -/
def program (dynamic : Bool) : Program ι (ι × PoolOp α δ) (Mempool α δ) (PoolResult α) where
  mutex := Prod.fst
  code op := op.2.code dynamic

/-- The functions of the pools, called one after another. -/
def pools (dynamic : Bool) : Object (ι × PoolOp α δ) (Mempool α δ) (PoolResult α) where
  result op mem := match op.2 with
    | .has => .has mem.hasMemory
    | .get allocations => .got (mem.getMemory (bif dynamic then allocations else [])).1
    | .put _ => .put
  held op mem := match op.2 with
    | .has => 0
    | .get _ => 0
    | .put item => if Leaves dynamic mem item then 1 else 0
  next op mem := match op.2 with
    | .has => mem
    | .get allocations => (mem.getMemory (bif dynamic then allocations else [])).2
    | .put item => put dynamic mem item

omit [DecidableEq ι] in
/-- Alone, the code of the functions does what the functions do. -/
theorem program_object (dynamic : Bool) :
    (program dynamic : Program ι (ι × PoolOp α δ) _ _).object = pools dynamic := by
  rw [Program.object, pools, Object.mk.injEq]
  refine ⟨?_, ?_, ?_⟩
  · funext ⟨_, op⟩ mem
    cases op with
    | has => rfl
    | get allocations => simp [program, PoolOp.code, getMemory_alone]
    | put item => simp [program, PoolOp.code]
  · funext ⟨_, op⟩ mem
    cases op with
    | has => rfl
    | get allocations => simp [program, PoolOp.code, getMemory_kept]
    | put item => simp [program, PoolOp.code, putMemory_kept]
  · funext ⟨_, op⟩ mem
    cases op with
    | has => rfl
    | get allocations => simp [program, PoolOp.code, getMemory_alone]
    | put item => simp [program, PoolOp.code, putMemory_alone]

omit [DecidableEq ι] in
theorem program_guarded (dynamic : Bool) (op : ι × PoolOp α δ) :
    ((program dynamic).code op).Guarded (dynamic = true) := by
  obtain ⟨_, op⟩ := op
  cases op with
  | has => exact ⟨_, rfl, fun _ => ⟨_, rfl⟩⟩
  | get allocations => exact (getMemory_guarded dynamic allocations).map _
  | put item => exact (putMemory_guarded dynamic).map _

/-! ## One order -/

/-- **Concurrent calls act like calls one after another**, in every build and under every schedule: the calls on
a pool in the order in which they took its mutex give back what `Mempool` gives back, a call made after another
one had returned comes after it, and while no call is inside, the pool is what these calls make of it. -/
theorem pools_linearizable (dynamic : Bool) (init : ι → Mempool α δ) (is : List (Tid × ι × PoolOp α δ))
    (pool : ι) :
    let s := Runs.exec (Threads.step (program dynamic)) (.start init) is
    let order := entries (program dynamic) pool s.events
    Linearizes (program dynamic) (pools dynamic) (init pool) pool s.events order ∧
      (s.Quiet (program dynamic) pool → s.memory pool = replay (pools dynamic) (init pool) order) := by
  rw [← program_object dynamic]
  exact linearizable (program_guarded dynamic) is pool

/-- **No deadlock** in a build without dynamic allocation: every call under way can return, whatever the schedule
was so far. -/
theorem pools_can_return (init : ι → Mempool α δ) (is : List (Tid × ι × PoolOp α δ)) (t : Tid)
    {call : Running (ι × PoolOp α δ) (Mempool α δ) (PoolResult α)}
    (under_way : (Runs.exec (Threads.step (program false)) (.start init) is).running t = some call) :
    ∃ js a held, .returned call.number t call.op a held ∈
      (Runs.exec (Threads.step (program false)) (.start init) (is ++ js)).events := by
  obtain ⟨n, op, held, code⟩ := call
  have guarded : ∀ op : ι × PoolOp α δ, ((program false).code op).Guarded (false = true) :=
    program_guarded false
  rw [eq_false Bool.false_ne_true] at guarded
  exact can_return guarded is under_way

/-- A pool of two items. -/
abbrev twoItems : Unit → Mempool Nat Nat := fun _ => Mempool.zero.init id id 2

/-- One thread is inside `get_memory` and another one waits. -/
theorem pools_can_return_waiting :
    let is : List (Bool × Unit × PoolOp Nat Nat) :=
      [(true, (), .get []), (true, (), .get []), (false, (), .get []), (false, (), .get [])]
    let s := Runs.exec (Threads.step (program false)) (.start twoItems) is
    s.holder () = some true ∧ ∃ js a held, .returned 1 false ((), .get []) a held ∈
      (Runs.exec (Threads.step (program false)) (.start twoItems) (is ++ js)).events := by
  intro is s
  refine ⟨rfl, ?_⟩
  have waits : ∃ call, s.running false = some call ∧ call.number = 1 ∧ call.op = ((), .get []) :=
    ⟨_, rfl, rfl, rfl⟩
  obtain ⟨call, under_way, number, op⟩ := waits
  rw [← number, ← op]
  exact pools_can_return twoItems is false under_way

/-- **A dynamic item that is put back starves the pool.** A call that has returned keeps the mutex exactly if it
put back an item that was dynamic at its place in the order; from then on no call of another thread on the pool
enters any more, whatever the schedule. -/
theorem dynamic_put_starves (dynamic : Bool) (init : ι → Mempool α δ) (is js : List (Tid × ι × PoolOp α δ))
    {n held : Nat} {t : Tid} {pool : ι} {op : PoolOp α δ} {a : PoolResult α}
    (returned : .returned n t (pool, op) a held ∈
      (Runs.exec (Threads.step (program dynamic)) (.start init) is).events) :
    let s := Runs.exec (Threads.step (program dynamic)) (.start init) is
    let s' := Runs.exec (Threads.step (program dynamic)) (.start init) (is ++ js)
    (∃ after before, entries (program dynamic) pool s.events = after ++ (n, pool, op) :: before ∧
      (held ≠ 0 ↔ ∃ item, op = .put item ∧ Leaves dynamic (replay (pools dynamic) (init pool) before) item)) ∧
      (held ≠ 0 → ∀ n' u op', u ≠ t → .entered n' u (pool, op') ∈ s'.events →
        .entered n' u (pool, op') ∈ s.events) := by
  intro s s'
  constructor
  · obtain ⟨after, before, order, -, keeps⟩ :=
      (pools_linearizable dynamic init is pool).1.results n t (pool, op) a held returned rfl
    refine ⟨after, before, order, ?_⟩
    rw [keeps]
    cases op with
    | has =>
      apply iff_of_false (fun ne => ne rfl)
      rintro ⟨item, e, -⟩
      cases e
    | get allocations =>
      apply iff_of_false (fun ne => ne rfl)
      rintro ⟨item, e, -⟩
      cases e
    | put item =>
      have kept : (pools dynamic).held (pool, .put item) (replay (pools dynamic) (init pool) before) =
          if Leaves dynamic (replay (pools dynamic) (init pool) before) item then 1 else 0 := rfl
      rw [kept]
      constructor
      · intro ne
        exact ⟨item, rfl, by_contra fun stays => ne (if_neg stays)⟩
      · rintro ⟨item', e, leaves⟩
        cases e
        rw [if_pos leaves]
        exact Nat.one_ne_zero
  · intro kept n' u op' ne entered
    exact starved (program_guarded dynamic) is js returned kept rfl ne entered

/-- A pool whose only item is dynamic. -/
abbrev grown : Unit → Mempool Nat Nat := fun _ =>
  { Mempool.zero with allocateditems := some 0, isDynamicMemory := fun x => x = 0, size := 1 }

theorem dynamic_put_starves_grown :
    let is : List (Bool × Unit × PoolOp Nat Nat) := List.replicate 9 (true, (), .put 0)
    .returned 0 true ((), .put 0) .put 1 ∈ (Runs.exec (Threads.step (program true)) (.start grown) is).events ∧
      ∀ js n op, .entered n false ((), op) ∉
        (Runs.exec (Threads.step (program true)) (.start grown) (is ++ js)).events := by
  intro is
  have returned : .returned 0 true ((), .put 0) .put 1 ∈
      (Runs.exec (Threads.step (program true)) (.start grown) is).events := List.mem_cons_self
  refine ⟨returned, fun js n op entered => ?_⟩
  have early := (dynamic_put_starves true grown is js returned).2 Nat.one_ne_zero n false op
    Bool.false_ne_true entered
  have events : (Runs.exec (Threads.step (program true)) (.start grown) is).events =
      [.returned 0 true ((), .put 0) .put 1, .entered 0 true ((), .put 0), .called 0 true ((), .put 0)] := rfl
  rw [events] at early
  simp at early

end RmwMicroxrcedds.Concurrent
