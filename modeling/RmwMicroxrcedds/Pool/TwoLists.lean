import RmwMicroxrcedds.Pool.Memory
import Mathlib.Data.List.Perm.Basic
import Mathlib.Data.List.Range

/-!
# A pool as two lists

`Mempool.Repr m as fs` says that the pool's pointers spell the allocated list `as` and the
free list `fs`, properly linked and without a shared item. Each operation of `memory.c` then
has one theorem about the two lists: `get` moves the head of the free list to the head of the
allocated one, `put` moves an allocated item to the head of the free one. `put` of an item
that is already free is no operation of a pool; `put_free` says what the code does with it.
-/

namespace RmwMicroxrcedds
set_option autoImplicit false
open Intrusive

namespace Mempool

variable {α δ : Type}

/-- The pointers of `m` spell the allocated list `as` and the free list `fs`. -/
structure Repr (m : Mempool α δ) (as fs : List α) : Prop where
  allocated : Chain m.link m.allocateditems as
  free : Chain m.link m.freeitems fs
  nodup : (as ++ fs).Nodup
  bound : as.length + fs.length ≤ m.size

theorem Repr.allocated_eq {m : Mempool α δ} {as fs : List α} (r : m.Repr as fs) :
    m.allocated = as :=
  r.allocated.walk (by have := r.bound; omega)

theorem Repr.free_eq {m : Mempool α δ} {as fs : List α} (r : m.Repr as fs) : m.free = fs :=
  r.free.walk (by have := r.bound; omega)

theorem Repr.disjoint {m : Mempool α δ} {as fs : List α} (r : m.Repr as fs) {x : α}
    (ha : x ∈ as) (hf : x ∈ fs) : False :=
  (List.nodup_append.1 r.nodup).2.2 x ha x hf rfl

theorem Repr.nodup_allocated {m : Mempool α δ} {as fs : List α} (r : m.Repr as fs) : as.Nodup :=
  (List.nodup_append.1 r.nodup).1

theorem Repr.nodup_free {m : Mempool α δ} {as fs : List α} (r : m.Repr as fs) : fs.Nodup :=
  (List.nodup_append.1 r.nodup).2.1

@[simp] theorem zero_repr : (zero : Mempool α δ).Repr [] [] :=
  ⟨Chain.nil_iff.2 rfl, Chain.nil_iff.2 rfl, by simp, by simp⟩

variable [DecidableEq α]

/-! ## `put_memory` -/

/-- `put_memory` of an item that is not dynamic, in terms of the list surgeries. -/
theorem putMemory_eq (m : Mempool α δ) {x : α} (static : m.isDynamicMemory x = false) :
    m.putMemory x = { m with
      link := pushFront (unlink m.link x) m.freeitems x
      allocateditems :=
        if m.allocateditems = some x then (unlink m.link x x).next else m.allocateditems
      freeitems := some x } := by
  simp only [putMemory, static, Bool.false_eq_true, if_false]
  rfl

@[simp] theorem putMemory_data (m : Mempool α δ) (x : α) : (m.putMemory x).data = m.data := by
  unfold putMemory; dsimp only; split <;> rfl

@[simp] theorem putMemory_isDynamicMemory (m : Mempool α δ) (x : α) :
    (m.putMemory x).isDynamicMemory = m.isDynamicMemory := by
  unfold putMemory; dsimp only; split <;> rfl

@[simp] theorem putMemory_size (m : Mempool α δ) (x : α) : (m.putMemory x).size = m.size := by
  unfold putMemory; dsimp only; split <;> rfl

@[simp] theorem putMemory_isInitialized (m : Mempool α δ) (x : α) :
    (m.putMemory x).isInitialized = m.isInitialized := by
  unfold putMemory; dsimp only; split <;> rfl

@[simp] theorem putMemory_isDynamicAllowed (m : Mempool α δ) (x : α) :
    (m.putMemory x).isDynamicAllowed = m.isDynamicAllowed := by
  unfold putMemory; dsimp only; split <;> rfl

/-- **Releasing** an allocated item, wherever it stands in the allocated list. -/
theorem Repr.put {m : Mempool α δ} {l r fs : List α} {x : α} (h : m.Repr (l ++ x :: r) fs)
    (static : m.isDynamicMemory x = false) : (m.putMemory x).Repr (l ++ r) (x :: fs) := by
  have nodup : (l ++ x :: r).Nodup := h.nodup_allocated
  have xfree : x ∉ fs := fun hf => h.disjoint (by simp) hf
  have free : Chain (unlink m.link x) m.freeitems fs :=
    h.free.congr fun y hy => h.allocated.unlink_frame nodup fun ha => h.disjoint ha hy
  have head := free.head
  rw [putMemory_eq m static]
  refine ⟨?_, free.pushFront xfree h.nodup_free, ?_, ?_⟩
  · have rest := h.allocated.unlink nodup
    rw [← h.allocated.unlink_next nodup] at rest
    refine rest.congr fun y hy => pushFront_of_ne ?_ ?_
    · rintro rfl
      simp only [List.mem_append] at hy
      rw [List.nodup_append] at nodup
      rcases hy with hy | hy
      · exact nodup.2.2 y hy y (by simp) rfl
      · exact (List.nodup_cons.1 nodup.2.1).1 hy
    · intro e
      refine h.disjoint (x := y) ?_ ?_
      · simp only [List.mem_append, List.mem_cons] at hy ⊢
        tauto
      · exact List.mem_of_mem_head? (head ▸ e)
  · have := h.nodup
    simp only [List.append_assoc, List.cons_append] at this ⊢
    exact (List.perm_middle.nodup_iff.1 this) |> fun n =>
      (by simpa using (@List.perm_middle _ _ (l ++ r) _).nodup_iff.2 (by simpa using n))
  · have := h.bound
    simp only [List.length_append, List.length_cons] at this ⊢
    omega

/-- What the code does with an item that is already free and not the head of the free list: it
becomes the head. -/
theorem Repr.put_free {m : Mempool α δ} {as l r : List α} {f x : α}
    (h : m.Repr as (f :: l ++ x :: r)) (static : m.isDynamicMemory x = false) :
    (m.putMemory x).Repr as (x :: (f :: l ++ r)) := by
  have nodup : (f :: l ++ x :: r).Nodup := h.nodup_free
  have alloc : Chain (unlink m.link x) m.allocateditems as :=
    h.allocated.congr fun y hy => h.free.unlink_frame nodup fun hf => h.disjoint hy hf
  have hne : m.allocateditems ≠ some x := by
    rw [h.allocated.head]
    intro e
    exact h.disjoint (List.mem_of_mem_head? e) (by simp)
  have hf : m.freeitems = some f := h.free.head
  have hfx : f ≠ x := by
    rintro rfl
    simp at nodup
  have free : Chain (unlink m.link x) (some f) (f :: l ++ r) := by
    have := h.free.unlink nodup
    rwa [hf, if_neg (by simpa using hfx)] at this
  have perm : (x :: (f :: l ++ r)).Perm (f :: l ++ x :: r) := List.perm_middle.symm
  have nodup' := perm.nodup_iff.2 nodup
  rw [putMemory_eq m static, if_neg hne, hf]
  refine ⟨?_, free.pushFront (List.nodup_cons.1 nodup').1 (List.nodup_cons.1 nodup').2, ?_, ?_⟩
  · refine alloc.congr fun y hy => pushFront_of_ne ?_ ?_
    · rintro rfl
      exact h.disjoint hy (by simp)
    · intro e
      obtain rfl := Option.some.inj e
      exact h.disjoint hy (by simp)
  · exact (perm.append_left as).nodup_iff.2 h.nodup
  · have := h.bound
    have := perm.length_eq
    simp only [List.length_append, List.length_cons] at *
    omega

/-- An item that is in neither list and has NULL links enters the free list; the allocated list
stays. -/
theorem Repr.put_stray {m : Mempool α δ} {as fs : List α} {x : α} (h : m.Repr as fs)
    (static : m.isDynamicMemory x = false) (links : m.link x = ⟨none, none⟩)
    (xas : x ∉ as) (xfs : x ∉ fs) :
    Chain (m.putMemory x).link (m.putMemory x).allocateditems as ∧
      Chain (m.putMemory x).link (m.putMemory x).freeitems (x :: fs) := by
  have hu : unlink m.link x = m.link := by simp [unlink, links]
  have hne : m.allocateditems ≠ some x := by
    rw [h.allocated.head]
    intro e
    exact xas (List.mem_of_mem_head? e)
  rw [putMemory_eq m static, hu, if_neg hne]
  refine ⟨h.allocated.congr fun y hy => pushFront_of_ne ?_ ?_, h.free.pushFront xfs h.nodup_free⟩
  · rintro rfl
    exact xas hy
  · rw [h.free.head]
    intro e
    exact h.disjoint hy (List.mem_of_mem_head? e)

theorem Repr.put_fresh {m : Mempool α δ} {as fs : List α} {x : α} (h : m.Repr as fs)
    (static : m.isDynamicMemory x = false) (links : m.link x = ⟨none, none⟩)
    (xas : x ∉ as) (xfs : x ∉ fs) (room : as.length + fs.length + 1 ≤ m.size) :
    (m.putMemory x).Repr as (x :: fs) := by
  obtain ⟨alloc, free⟩ := h.put_stray static links xas xfs
  refine ⟨alloc, free, List.perm_middle.nodup_iff.2 (List.nodup_cons.2 ⟨?_, h.nodup⟩), ?_⟩
  · simp [xas, xfs]
  · simp only [List.length_cons, putMemory_size]
    omega

/-- `put_memory` writes no link outside the two lists. -/
theorem Repr.put_link {m : Mempool α δ} {l r fs : List α} {x y : α} (h : m.Repr (l ++ x :: r) fs)
    (static : m.isDynamicMemory x = false) (ha : y ∉ l ++ x :: r) (hf : y ∉ fs) :
    (m.putMemory x).link y = m.link y := by
  rw [putMemory_eq m static]
  refine (pushFront_of_ne ?_ ?_).trans (h.allocated.unlink_frame h.nodup_allocated ha)
  · rintro rfl
    exact ha (by simp)
  · rw [h.free.head]
    exact fun e => hf (List.mem_of_mem_head? e)

theorem putMemory_link_of_not_mem {m : Mempool α δ} {as fs : List α} {x y : α}
    (h : m.Repr as fs) (static : m.isDynamicMemory x = false) (links : m.link x = ⟨none, none⟩)
    (hyx : y ≠ x) (hy : y ∉ fs) : (m.putMemory x).link y = m.link y := by
  have hu : unlink m.link x = m.link := by simp [unlink, links]
  rw [putMemory_eq m static, hu]
  refine pushFront_of_ne hyx ?_
  rw [h.free.head]
  intro e
  exact hy (List.mem_of_mem_head? e)

/-! ## `get_memory` -/

theorem getFree_eq (m : Mempool α δ) (x : α) :
    m.getFree x = { m with
      link := pushFront (popFront m.link x) m.allocateditems x
      freeitems := (m.link x).next
      allocateditems := some x } := rfl

@[simp] theorem getFree_data (m : Mempool α δ) (x : α) : (m.getFree x).data = m.data := rfl

@[simp] theorem getFree_isDynamicMemory (m : Mempool α δ) (x : α) :
    (m.getFree x).isDynamicMemory = m.isDynamicMemory := rfl

/-- The head of the free list moves to the head of the allocated list. -/
theorem Repr.getFree {m : Mempool α δ} {as fs : List α} {x : α} (h : m.Repr as (x :: fs)) :
    (m.getFree x).Repr (x :: as) fs := by
  have hx : x ∉ fs := (List.nodup_cons.1 h.nodup_free).1
  have xas : x ∉ as := fun ha => h.disjoint ha (by simp)
  have nodup : fs.Nodup := (List.nodup_cons.1 h.nodup_free).2
  have next : (m.link x).next = fs.head? := (Chain.links (l := []) h.free).2
  have alloc : Chain (popFront m.link x) m.allocateditems as :=
    h.allocated.congr fun y hy => popFront_of_ne (by
      rw [next]
      intro e
      exact h.disjoint hy (by simp [List.mem_of_mem_head? e]))
  rw [getFree_eq]
  refine ⟨alloc.pushFront xas h.nodup_allocated, ?_, ?_, ?_⟩
  · refine (h.free.popFront hx nodup).congr fun y hy => pushFront_of_ne ?_ ?_
    · rintro rfl
      exact hx hy
    · rw [h.allocated.head]
      intro e
      exact h.disjoint (List.mem_of_mem_head? e) (by simp [hy])
  · have := h.nodup
    rw [List.perm_middle.nodup_iff] at this
    simpa using this
  · have := h.bound
    simp only [List.length_cons] at this ⊢
    omega

theorem Repr.getMemory_some {m : Mempool α δ} {as fs : List α} {x : α} (h : m.Repr as (x :: fs))
    (al : List (Allocation α δ)) : m.getMemory al = (some x, m.getFree x) := by
  have : m.freeitems = some x := h.free.head
  cases al <;> simp [getMemory, this]

/-- A static pool with an empty free list has nothing to give. -/
theorem Repr.getMemory_none {m : Mempool α δ} {as : List α} (h : m.Repr as []) :
    m.getMemory [] = (none, m) := by
  have : m.freeitems = none := h.free.head
  simp [getMemory, this]

/-- `get_memory` writes no link outside the two lists. -/
theorem Repr.getFree_link {m : Mempool α δ} {as fs : List α} {x y : α} (h : m.Repr as (x :: fs))
    (ha : y ∉ as) (hf : y ∉ x :: fs) : (m.getFree x).link y = m.link y := by
  have next : (m.link x).next = fs.head? := (Chain.links (l := []) h.free).2
  rw [getFree_eq]
  refine (pushFront_of_ne ?_ ?_).trans (popFront_of_ne ?_)
  · rintro rfl
    exact hf (by simp)
  · rw [h.allocated.head]
    exact fun e => ha (List.mem_of_mem_head? e)
  · rw [next]
    exact fun e => hf (by simp [List.mem_of_mem_head? e])

theorem newItem_link_of_ne {m : Mempool α δ} {a : Allocation α δ} {y : α} (h1 : y ≠ a.item)
    (h2 : y ≠ a.mem) : (m.newItem a).link y = m.link y := by
  simp [newItem, setPrev_of_ne _ _ h1, setNext_of_ne _ _ h1, setPrev_of_ne _ _ h2,
    setNext_of_ne _ _ h2]

theorem Repr.newItem {m : Mempool α δ} {as : List α} {a : Allocation α δ} (h : m.Repr as [])
    (item : a.item ∉ as) (mem : a.mem ∉ as) : (m.newItem a).Repr as [] := by
  refine ⟨h.allocated.congr fun y hy => newItem_link_of_ne ?_ ?_,
    Chain.nil_iff.2 (Chain.nil_iff.1 h.free), h.nodup, ?_⟩
  · rintro rfl
    exact item hy
  · rintro rfl
    exact mem hy
  · have := h.bound
    simp only [Mempool.newItem]
    omega

/-- The dynamic branch of `get_memory` puts one new item on the empty free list. -/
theorem Repr.addDynamic {m : Mempool α δ} {as : List α} {a : Allocation α δ} (h : m.Repr as [])
    (item : a.item ∉ as) (mem : a.mem ∉ as) : (m.addDynamic a).Repr as [a.item] := by
  have bound := h.bound
  have put := (h.newItem item mem).put_fresh (x := a.item) (by simp [Mempool.newItem])
    (by simp [Mempool.newItem]) item (by simp)
    (by simp only [Mempool.newItem, List.length_nil] at bound ⊢; omega)
  exact ⟨put.allocated, put.free, put.nodup, put.bound⟩

theorem Repr.addDynamic_link {m : Mempool α δ} {as : List α} {a : Allocation α δ} {y : α}
    (h : m.Repr as []) (item : a.item ∉ as) (mem : a.mem ∉ as) (ne : y ≠ a.item) :
    (m.addDynamic a).link y = (m.newItem a).link y :=
  putMemory_link_of_not_mem (h.newItem item mem) (by simp [Mempool.newItem])
    (by simp [Mempool.newItem]) ne (by simp)

/-- With an empty free list and dynamic allocation allowed, `get_memory` returns the new item. -/
theorem Repr.getMemory_dynamic {m : Mempool α δ} {as : List α} {a : Allocation α δ}
    (h : m.Repr as []) (allowed : m.isDynamicAllowed = true) (item : a.item ∉ as)
    (mem : a.mem ∉ as) :
    m.getMemory [a] = (some a.item, (m.addDynamic a).getFree a.item) := by
  have none : m.freeitems = none := h.free.head
  have r := h.addDynamic item mem
  rw [getMemory, none]
  simp only [allowed, if_true]
  exact r.getMemory_some []

/-! ## `RMW_INIT_MEMORY` -/

/-- One round of the initialisation loop. -/
def initItem (array : Nat → δ) (mem : Nat → α) (m : Mempool α δ) (i : Nat) : Mempool α δ :=
  let m := m.putMemory (mem i)
  { m with
    data := fun x => if x = mem i then some (array i) else m.data x
    isDynamicMemory := fun x => if x = mem i then false else m.isDynamicMemory x }

/-- The loop after `k` rounds, started on `m`: the first `k` items are free, last one first, each
with its element; nothing else has been written. -/
structure Initialised (m : Mempool α δ) (array : Nat → δ) (mem : Nat → α) (k : Nat)
    (m' : Mempool α δ) : Prop where
  repr : m'.Repr [] ((List.range k).reverse.map mem)
  links : ∀ y, y ∉ (List.range k).map mem → m'.link y = m.link y
  static : ∀ x, m'.isDynamicMemory x = false
  data : ∀ i < k, m'.data (mem i) = some (array i)
  dataOther : ∀ x, x ∉ (List.range k).map mem → m'.data x = m.data x
  size : m'.size = m.size
  initialized : m'.isInitialized = m.isInitialized
  allowed : m'.isDynamicAllowed = m.isDynamicAllowed

theorem init_loop {m : Mempool α δ} {array : Nat → δ} {mem : Nat → α}
    (inj : Function.Injective mem) (h : m.Repr [] []) (clean : ∀ x, m.link x = ⟨none, none⟩)
    (static : ∀ x, m.isDynamicMemory x = false) (k : Nat) (room : k ≤ m.size) :
    Initialised m array mem k ((List.range k).foldl (initItem array mem) m) := by
  induction k with
  | zero => exact ⟨h, fun _ _ => rfl, static, by simp, fun _ _ => rfl, rfl, rfl, rfl⟩
  | succ k ih =>
    have h := ih (by omega)
    simp only [List.range_succ, List.foldl_append, List.foldl_cons, List.foldl_nil]
    set m1 := (List.range k).foldl (initItem array mem) m
    have fresh : mem k ∉ (List.range k).map mem := by
      simp only [List.mem_map, List.mem_range, not_exists, not_and]
      intro i hi e
      have := inj e
      omega
    have fresh' : mem k ∉ (List.range k).reverse.map mem := by simpa using fresh
    have link : m1.link (mem k) = ⟨none, none⟩ := (h.links _ fresh).trans (clean _)
    have step := h.repr.put_fresh (h.static _) link (by simp) fresh'
      (by rw [h.size]; simp; omega)
    refine ⟨?_, ?_, ?_, ?_, ?_, ?_, ?_, ?_⟩
    · simp only [List.range_succ, List.reverse_append, List.reverse_singleton, List.map_cons,
        List.singleton_append]
      exact ⟨step.allocated, step.free, step.nodup, step.bound⟩
    · intro y hy
      simp only [List.range_succ, List.map_append, List.map_cons, List.map_nil, List.mem_append,
        List.mem_singleton, not_or] at hy
      have hy' : y ∉ (List.range k).reverse.map mem := by simpa using hy.1
      exact (putMemory_link_of_not_mem h.repr (h.static _) link hy.2 hy').trans (h.links y hy.1)
    · intro x
      simp [initItem, h.static]
    · intro i hi
      by_cases e : i = k
      · simp [initItem, e]
      · have hne : mem i ≠ mem k := fun e' => e (inj e')
        simp [initItem, hne, h.data i (by omega)]
    · intro x hx
      simp only [List.range_succ, List.map_append, List.map_cons, List.map_nil, List.mem_append,
        List.mem_singleton, not_or] at hx
      simp [initItem, hx.2, h.dataOther x hx.1]
    · simp [initItem, h.size]
    · simp [initItem, h.initialized]
    · simp [initItem, h.allowed]

/-- The pool as the initialisation loop finds it. -/
def started (m : Mempool α δ) (size : Nat) : Mempool α δ :=
  { m with
    isInitialized := true, allocateditems := none, freeitems := none
    isDynamicAllowed := true, size := size }

/-- **Initialisation** of a pool over zeroed items. -/
theorem init_spec {m : Mempool α δ} (array : Nat → δ) (mem : Nat → α) {size : Nat}
    (inj : Function.Injective mem) (clean : ∀ x, m.link x = ⟨none, none⟩)
    (static : ∀ x, m.isDynamicMemory x = false) (pos : 0 < size)
    (fresh : m.isInitialized = false) :
    Initialised (m.started size) array mem size (m.init array mem size) := by
  have start : (m.started size).Repr [] [] :=
    ⟨Chain.nil_iff.2 rfl, Chain.nil_iff.2 rfl, by simp, by simp⟩
  rw [init, if_pos ⟨pos, fresh⟩]
  exact init_loop inj start clean static size le_rfl

/-- `RMW_INIT_MEMORY` does nothing to an initialised pool. -/
theorem init_again {m : Mempool α δ} {array : Nat → δ} {mem : Nat → α} {size : Nat}
    (done : m.isInitialized = true) : m.init array mem size = m := by
  simp [init, done]

end Mempool

end RmwMicroxrcedds
