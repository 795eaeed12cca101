import RmwMicroxrcedds.Base.Runs
import RmwMicroxrcedds.Pool.TwoLists

/-!
# The discipline of a static pool

The users of a pool initialise it, get items and put items back that they got. Whatever the order,
the pointers of the pool then spell two proper lists that share the array between them, and each call
moves the one item it is about. `array i` is the `i`-th element of the array and `mem i` the item
embedded in it.
-/

namespace RmwMicroxrcedds.Discipline
set_option autoImplicit false
open Intrusive Mempool Runs

variable {α δ : Type} [DecidableEq α]

/-- The calls on a pool. An initialisation comes with the array it is called for. -/
inductive PoolCall (α δ : Type) where
  | init (array : Nat → δ) (mem : Nat → α) (size : Nat)
  | get
  | put (item : α)

/-- One call in a build without dynamic allocation. -/
def poolStep (m : Mempool α δ) : PoolCall α δ → Mempool α δ
  | .init array mem size => m.init array mem size
  | .get => (m.getMemory []).2
  | .put item => m.putMemory item

/-- Items are put back by those who hold them. -/
def PutsHeld (m : Mempool α δ) (c : PoolCall α δ) : Prop := ∀ item, c = .put item → item ∈ m.allocated

variable (array : Nat → δ) (mem : Nat → α) (n : Nat)

/-- The pool is a partition of the array into two proper lists. -/
structure Partitioned (m : Mempool α δ) : Prop where
  allocated : WellLinked m.link m.allocateditems m.allocated
  free : WellLinked m.link m.freeitems m.free
  disjoint : m.allocated.Disjoint m.free
  items : ∀ x, (x ∈ m.allocated ∨ x ∈ m.free) ↔ ∃ i < n, x = mem i
  data : ∀ i < n, m.data (mem i) = some (array i)

/-- What a call does to the two lists. -/
def Moves (m : Mempool α δ) : PoolCall α δ → Prop
  | .init array mem size => m.init array mem size = m
  | .get => ((m.getMemory []).1 = none ↔ ∀ i < n, mem i ∈ m.allocated) ∧
      match m.getMemory [] with
      | (none, m') => m' = m
      | (some item, m') => m'.allocated = item :: m.allocated ∧ m.free = item :: m'.free
  | .put item => ∃ l r, m.allocated = l ++ item :: r ∧
      (m.putMemory item).allocated = l ++ r ∧ (m.putMemory item).free = item :: m.free

/-- An initialised pool. -/
structure Inv (m : Mempool α δ) (as fs : List α) : Prop where
  repr : m.Repr as fs
  items : (as ++ fs).Perm ((List.range n).map mem)
  data : ∀ i < n, m.data (mem i) = some (array i)
  static : ∀ x, m.isDynamicMemory x = false
  initialized : m.isInitialized = true

variable {array mem n} {m : Mempool α δ} {as fs : List α}

omit [DecidableEq α] in
theorem Inv.mem_iff (h : Inv array mem n m as fs) (x : α) : (x ∈ as ∨ x ∈ fs) ↔ ∃ i < n, x = mem i := by
  rw [← List.mem_append, h.items.mem_iff]
  simp [eq_comm]

omit [DecidableEq α] in
theorem Inv.partitioned (h : Inv array mem n m as fs) : Partitioned array mem n m where
  allocated := h.repr.allocated_eq ▸ h.repr.allocated.wellLinked h.repr.nodup_allocated
  free := h.repr.free_eq ▸ h.repr.free.wellLinked h.repr.nodup_free
  disjoint := by
    intro x held free
    rw [h.repr.allocated_eq] at held
    rw [h.repr.free_eq] at free
    exact h.repr.disjoint held free
  items x := by
    rw [h.repr.allocated_eq, h.repr.free_eq]
    exact h.mem_iff x
  data := h.data

/-! ## One call -/

theorem Inv.get_none (h : Inv array mem n m as []) : Moves mem n m .get ∧ poolStep m .get = m := by
  have get : m.getMemory [] = (none, m) := h.repr.getMemory_none
  have all : ∀ i < n, mem i ∈ m.allocated := by
    intro i lt
    rw [h.repr.allocated_eq]
    simpa using (h.mem_iff (mem i)).2 ⟨i, lt, rfl⟩
  constructor
  · rw [Moves, get]
    exact ⟨iff_of_true rfl all, rfl⟩
  · rw [poolStep, get]

theorem Inv.get_some {item : α} (h : Inv array mem n m as (item :: fs)) :
    Moves mem n m .get ∧ Inv array mem n (poolStep m .get) (item :: as) fs := by
  have get : m.getMemory [] = (some item, m.getFree item) := h.repr.getMemory_some []
  have moved : (m.getFree item).Repr (item :: as) fs := h.repr.getFree
  have spare : ¬ ∀ i < n, mem i ∈ m.allocated := by
    intro all
    obtain ⟨i, lt, e⟩ := (h.mem_iff item).1 (.inr List.mem_cons_self)
    have held := all i lt
    rw [← e, h.repr.allocated_eq] at held
    exact h.repr.disjoint held List.mem_cons_self
  constructor
  · rw [Moves, get]
    refine ⟨iff_of_false (by simp) spare, ?_⟩
    constructor
    · rw [moved.allocated_eq, h.repr.allocated_eq]
    · rw [moved.free_eq, h.repr.free_eq]
  · rw [poolStep, get]
    exact ⟨moved, List.perm_middle.symm.trans h.items, h.data, h.static, h.initialized⟩

theorem Inv.put {l r : List α} {item : α} (h : Inv array mem n m (l ++ item :: r) fs) :
    Moves mem n m (.put item) ∧ Inv array mem n (poolStep m (.put item)) (l ++ r) (item :: fs) := by
  have moved : (m.putMemory item).Repr (l ++ r) (item :: fs) := h.repr.put (h.static item)
  constructor
  · exact ⟨l, r, h.repr.allocated_eq, moved.allocated_eq, by rw [moved.free_eq, h.repr.free_eq]⟩
  · refine ⟨moved, ?_, ?_, ?_, ?_⟩
    · refine List.Perm.trans ?_ h.items
      rw [List.append_assoc, List.append_assoc]
      exact List.perm_middle.append_left l
    · simpa [poolStep] using h.data
    · simpa [poolStep] using h.static
    · simpa [poolStep] using h.initialized

theorem Inv.step (h : Inv array mem n m as fs) (c : PoolCall α δ) (held : PutsHeld m c) :
    Moves mem n m c ∧ ∃ as' fs', Inv array mem n (poolStep m c) as' fs' := by
  cases c with
  | init array' mem' size =>
    have same : poolStep m (.init array' mem' size) = m := Mempool.init_again h.initialized
    refine ⟨same, as, fs, ?_⟩
    rw [same]
    exact h
  | get =>
    cases fs with
    | nil =>
      obtain ⟨moves, same⟩ := h.get_none
      rw [same]
      exact ⟨moves, as, [], h⟩
    | cons item fs =>
      obtain ⟨moves, inv⟩ := h.get_some
      exact ⟨moves, _, _, inv⟩
  | put item =>
    have mem := held item rfl
    rw [h.repr.allocated_eq] at mem
    obtain ⟨l, r, rfl⟩ := List.append_of_mem mem
    obtain ⟨moves, inv⟩ := h.put
    exact ⟨moves, _, _, inv⟩

/-! ## Runs -/

theorem initial_inv (pos : 0 < n) (inj : Function.Injective mem) :
    Inv array mem n ((zero : Mempool α δ).init array mem n) [] ((List.range n).reverse.map mem) := by
  have spec := init_spec (m := (zero : Mempool α δ)) array mem inj (fun _ => rfl) (fun _ => rfl) pos rfl
  refine ⟨spec.repr, ?_, spec.data, spec.static, spec.initialized⟩
  exact (List.reverse_perm _).map mem

/-- **The discipline.** A pool that is initialised over an array of any positive size, and to which
only items in use are put back, is partitioned into its two lists before and after every call; a get
fails when all items are in use and otherwise moves a free one, and a put moves its item. A later
initialisation, for whatever array, leaves the pool as it is. -/
theorem partitioned_throughout (pos : 0 < n) (inj : Function.Injective mem) (array : Nat → δ)
    (calls : List (PoolCall α δ))
    (held : Always poolStep PutsHeld ((zero : Mempool α δ).init array mem n) calls) :
    Always poolStep (fun m c => Partitioned array mem n m ∧ Moves mem n m c)
      ((zero : Mempool α δ).init array mem n) calls ∧
    Partitioned array mem n (exec poolStep ((zero : Mempool α δ).init array mem n) calls) := by
  have start : ∃ as fs, Inv array mem n ((zero : Mempool α δ).init array mem n) as fs :=
    ⟨_, _, initial_inv pos inj⟩
  have pres : ∀ (m : Mempool α δ) c, (∃ as fs, Inv array mem n m as fs) → PutsHeld m c →
      ∃ as fs, Inv array mem n (poolStep m c) as fs := by
    rintro m c ⟨as, fs, h⟩ put
    exact (h.step c put).2
  constructor
  · refine always_of_invariant pres ?_ start held
    rintro m c ⟨as, fs, h⟩ put
    exact ⟨h.partitioned, (h.step c put).1⟩
  · obtain ⟨as, fs, h⟩ := invariant_exec pres start held
    exact h.partitioned

/-- Two items, taken and put back from the tail, and an initialisation in between. -/
theorem partitioned_throughout_two : 0 < 2 ∧ Function.Injective (id : Nat → Nat) ∧
    Partitioned id id 2 (exec poolStep ((zero : Mempool Nat Nat).init id id 2)
      [.get, .get, .put 1, .init id id 3, .get]) :=
  ⟨by decide, Function.injective_id,
    (partitioned_throughout (by decide) Function.injective_id id
      [.get, .get, .put 1, .init id id 3, .get] (by
        refine ⟨?_, ?_, ?_, ?_, ?_, trivial⟩ <;> intro item e <;> cases e
        decide)).2⟩

end RmwMicroxrcedds.Discipline
