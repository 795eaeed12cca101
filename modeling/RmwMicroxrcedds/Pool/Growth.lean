import RmwMicroxrcedds.Base.Runs
import RmwMicroxrcedds.Pool.TwoLists

/-!
# Pools that grow

With `RMW_UXRCE_ALLOW_DYNAMIC_ALLOCATIONS` an entity lives either in an array element, whose
embedded item is the one the pool hands out, or in an allocated element, whose pool item is a
separate block. `rmw_uxrce_fini_*_memory` always returns the embedded item. The machine below
creates and destroys entities of one pool; `live` records which ones exist.
-/

namespace RmwMicroxrcedds.Growth
set_option autoImplicit false
open Intrusive Mempool Runs

/-- Where an entity's structure lives. -/
inductive Element where
  | array (i : Nat)
  | heap (k : Nat)
deriving DecidableEq

/-- Where a list item lives: embedded in an element, or in a block of its own. -/
inductive ItemAddr where
  | mem (e : Element)
  | heap (k : Nat)
deriving DecidableEq

/-- The pool of one entity type, the entities created and not yet destroyed (newest first), and
the number of blocks taken from the allocator. -/
structure GrowState where
  pool : Mempool ItemAddr Element
  live : List Element
  blocks : Nat

/-- The answers of the two `rmw_allocate` calls: blocks never handed out before. -/
def GrowState.allocation (s : GrowState) : Allocation ItemAddr Element where
  item := .heap s.blocks
  element := .heap s.blocks
  mem := .mem (.heap s.blocks)

/-- After `RMW_INIT_MEMORY` over an array of `size` elements. -/
def initial (size : Nat) : GrowState where
  pool := (zero : Mempool ItemAddr Element).init .array (fun i => .mem (.array i)) size
  live := []
  blocks := 0

/-- The calls that take an element from the pool and give it back. -/
inductive Op where
  | create
  | destroy (e : Element)

/-- One call. A create function takes `memory_node->data` as its entity; a destroy function ends
in `rmw_uxrce_fini_*_memory`, which puts back the item embedded in the entity. -/
def step (s : GrowState) : Op → GrowState
  | .create =>
    match s.pool.getMemory [s.allocation] with
    | (some item, pool) =>
      { pool := pool
        live := match pool.data item with
          | some e => e :: s.live
          | none => s.live
        blocks := s.blocks + 1 }
    | (none, pool) => { s with pool := pool }
  | .destroy e =>
    if e ∈ s.live then
      { s with pool := s.pool.putMemory (.mem e), live := s.live.erase e }
    else s

/-- The allocated list is a proper list with exactly one item per live entity, whose `data` is the
entity's element. -/
def OneItemEach (s : GrowState) : Prop :=
  (∃ as fs, s.pool.Repr as fs) ∧
    (s.pool.allocated.map s.pool.data).Perm (s.live.map some) ∧ s.live.Nodup

/-- What a call must do on top of that: `get_memory` returns an item whose `data` is an element
of no live entity, and a destroyed entity leaves no item behind. -/
def CallSound (s : GrowState) : Op → Prop
  | .create => ∀ item, (s.pool.getMemory [s.allocation]).1 = some item →
      ∃ e, (s.pool.getMemory [s.allocation]).2.data item = some e ∧ e ∉ s.live
  | .destroy e => e ∈ s.live → ∀ item ∈ (step s (.destroy e)).pool.allocated,
      (step s (.destroy e)).pool.data item ≠ some e

/-- The pool is consistent around one call. -/
def Consistent (s : GrowState) (op : Op) : Prop :=
  OneItemEach s ∧ CallSound s op ∧ OneItemEach (step s op)

/-- The call does not destroy an entity that lives in an allocated element. -/
def KeepsDynamic (s : GrowState) (op : Op) : Prop :=
  ∀ k, op = .destroy (.heap k) → .heap k ∉ s.live

/-- The item `get_memory` handed out for an entity. -/
def itemOf : Element → ItemAddr
  | .array i => .mem (.array i)
  | .heap k => .heap k

/-- The representation as long as no dynamic entity was destroyed: dynamic items are all in use,
array items are in use or free, and every block embeds an item that is in no list. -/
structure Inv (s : GrowState) (fs : List Nat) : Prop where
  repr : s.pool.Repr (s.live.map itemOf) (fs.map fun i => .mem (.array i))
  liveData : ∀ e ∈ s.live, s.pool.data (itemOf e) = some e
  freeData : ∀ i ∈ fs, s.pool.data (.mem (.array i)) = some (.array i)
  blocks : ∀ k, .heap k ∈ s.live → k < s.blocks
  static : ∀ e, s.pool.isDynamicMemory (.mem e) = false
  embedded : ∀ k, s.pool.link (.mem (.heap k)) = ⟨none, none⟩
  allowed : s.pool.isDynamicAllowed = true

theorem Inv.live_nodup {s : GrowState} {fs : List Nat} (h : Inv s fs) : s.live.Nodup :=
  h.repr.nodup_allocated.of_map

theorem Inv.oneItemEach {s : GrowState} {fs : List Nat} (h : Inv s fs) : OneItemEach s := by
  refine ⟨⟨_, _, h.repr⟩, ?_, h.live_nodup⟩
  rw [h.repr.allocated_eq, List.map_map]
  refine List.Perm.of_eq (List.map_congr_left fun e he => ?_)
  exact h.liveData e he

theorem Inv.not_live_of_free {s : GrowState} {fs : List Nat} (h : Inv s fs) {i : Nat}
    (hi : i ∈ fs) : .array i ∉ s.live := fun hl =>
  h.repr.disjoint (List.mem_map.2 ⟨_, hl, rfl⟩) (List.mem_map.2 ⟨i, hi, rfl⟩)

theorem Inv.fresh {s : GrowState} {fs : List Nat} (h : Inv s fs) : .heap s.blocks ∉ s.live :=
  fun hl => absurd (h.blocks _ hl) (by omega)

theorem heap_not_mem_free (fs : List Nat) (k : Nat) :
    ItemAddr.mem (.heap k) ∉ fs.map fun i => ItemAddr.mem (.array i) := by simp

theorem mem_heap_not_mem_live (live : List Element) (k : Nat) :
    ItemAddr.mem (.heap k) ∉ live.map itemOf := by
  simp only [List.mem_map, not_exists, not_and]
  intro e _
  cases e <;> simp [itemOf]

/-- Creating with a free array item. -/
theorem Inv.create_static {s : GrowState} {i : Nat} {fs : List Nat} (h : Inv s (i :: fs)) :
    Inv (step s .create) fs ∧ CallSound s .create := by
  have get := h.repr.getMemory_some [s.allocation]
  have data : (s.pool.getFree (.mem (.array i))).data (.mem (.array i)) = some (.array i) := by
    simpa using h.freeData i (by simp)
  have estep : step s .create = { pool := s.pool.getFree (.mem (.array i))
                                  live := .array i :: s.live, blocks := s.blocks + 1 } := by
    simp only [step, get, data]
  rw [estep]
  refine ⟨⟨h.repr.getFree, ?_, ?_, ?_, h.static, ?_, h.allowed⟩, ?_⟩
  · intro e he
    rcases List.mem_cons.1 he with rfl | he
    · exact data
    · simpa using h.liveData e he
  · intro j hj
    simpa using h.freeData j (by simp [hj])
  · intro k hk
    exact Nat.lt_succ_of_lt (h.blocks k (by simpa using hk))
  · intro k
    exact (h.repr.getFree_link (mem_heap_not_mem_live _ _) (heap_not_mem_free (i :: fs) k)).trans
      (h.embedded k)
  · intro item hitem
    rw [get] at hitem ⊢
    obtain rfl := Option.some.inj hitem
    exact ⟨_, data, h.not_live_of_free (by simp)⟩

/-- Creating with an empty free list: the item and the element are new blocks. -/
theorem Inv.create_dynamic {s : GrowState} (h : Inv s []) :
    Inv (step s .create) [] ∧ CallSound s .create := by
  have hitem : s.allocation.item ∉ s.live.map itemOf := by
    simp only [List.mem_map, not_exists, not_and]
    intro e he
    cases e with
    | array i => simp [itemOf, GrowState.allocation]
    | heap k =>
      have := h.blocks k he
      simp only [itemOf, GrowState.allocation, ItemAddr.heap.injEq]
      omega
  have hmem : s.allocation.mem ∉ s.live.map itemOf := mem_heap_not_mem_live _ _
  have get := h.repr.getMemory_dynamic h.allowed hitem hmem
  have radd := h.repr.addDynamic hitem hmem
  set pool := (s.pool.addDynamic s.allocation).getFree s.allocation.item with hpool
  have hdata : pool.data = fun x => if x = s.allocation.item then some (.heap s.blocks)
      else if x = s.allocation.mem then none else s.pool.data x := by
    simp only [hpool, getFree_data, addDynamic, putMemory_data]
    rfl
  have estep : step s .create = { pool := pool, live := .heap s.blocks :: s.live
                                  blocks := s.blocks + 1 } := by
    simp only [step, get, hdata, if_true]
  have links : ∀ k, pool.link (.mem (.heap k)) = ⟨none, none⟩ := by
    intro k
    have ne : ItemAddr.mem (.heap k) ≠ s.allocation.item := by simp [GrowState.allocation]
    have unlisted : ItemAddr.mem (.heap k) ∉ [s.allocation.item] := by simpa using ne
    refine (radd.getFree_link (mem_heap_not_mem_live _ _) unlisted).trans
      ((h.repr.addDynamic_link hitem hmem ne).trans ?_)
    by_cases hk : ItemAddr.mem (.heap k) = s.allocation.mem
    · rw [hk]
      simp [newItem, GrowState.allocation, setPrev_of_ne, setNext_of_ne]
    · exact (newItem_link_of_ne ne hk).trans (h.embedded k)
  rw [estep]
  refine ⟨⟨radd.getFree, ?_, by simp, ?_, ?_, links, ?_⟩, ?_⟩
  · intro e he
    rcases List.mem_cons.1 he with rfl | he
    · simp [hdata, itemOf, GrowState.allocation]
    · have h1 : itemOf e ≠ s.allocation.item := fun e' =>
        hitem (e' ▸ List.mem_map.2 ⟨e, he, rfl⟩)
      have h2 : itemOf e ≠ s.allocation.mem := fun e' =>
        hmem (e' ▸ List.mem_map.2 ⟨e, he, rfl⟩)
      simp [hdata, h1, h2, h.liveData e he]
  · intro k hk
    rcases List.mem_cons.1 hk with e | hk
    · obtain rfl := Element.heap.inj e
      exact Nat.lt_succ_self _
    · exact Nat.lt_succ_of_lt (h.blocks k hk)
  · intro e
    simp [hpool, addDynamic, newItem, GrowState.allocation, h.static]
  · simp [hpool, addDynamic, newItem, getFree_eq, h.allowed]
  · intro item hi
    rw [get] at hi ⊢
    obtain rfl := Option.some.inj hi
    exact ⟨.heap s.blocks, by simp [hdata, GrowState.allocation], h.fresh⟩

/-- Destroying an entity of the array. -/
theorem Inv.destroy_static {s : GrowState} {fs : List Nat} (h : Inv s fs) {i : Nat}
    (live : .array i ∈ s.live) :
    Inv (step s (.destroy (.array i))) (i :: fs) ∧ CallSound s (.destroy (.array i)) := by
  obtain ⟨l, r, e⟩ := List.append_of_mem live
  have nodup := h.live_nodup
  have erase : s.live.erase (.array i) = l ++ r := by
    rw [e, List.nodup_append] at nodup
    rw [e, List.erase_append_right _ fun hl => nodup.2.2 _ hl _ (by simp) rfl,
      List.erase_cons_head]
  have repr : s.pool.Repr (l.map itemOf ++ .mem (.array i) :: r.map itemOf)
      (fs.map fun i => .mem (.array i)) := by
    have := h.repr
    rw [e, List.map_append, List.map_cons] at this
    exact this
  have put := repr.put (h.static _)
  have estep : step s (.destroy (.array i)) = { s with
      pool := s.pool.putMemory (.mem (.array i)), live := l ++ r } := by
    simp [step, live, erase]
  have notin : .array i ∉ l ++ r := by
    rw [← erase]
    exact fun hm => absurd hm (List.Nodup.not_mem_erase nodup)
  have sub : ∀ x ∈ l ++ r, x ∈ s.live := fun x hx => by
    rw [← erase] at hx
    exact List.mem_of_mem_erase hx
  have inv : Inv (step s (.destroy (.array i))) (i :: fs) := by
    rw [estep]
    refine ⟨by simpa using put, ?_, ?_, fun k hk => h.blocks k (sub _ hk), ?_, ?_, ?_⟩
    · intro x hx
      simpa using h.liveData x (sub x hx)
    · intro j hj
      rcases List.mem_cons.1 hj with rfl | hj
      · simpa [itemOf] using h.liveData _ live
      · simpa using h.freeData j hj
    · intro x
      simpa using h.static x
    · intro k
      have unlisted : ItemAddr.mem (.heap k) ∉ l.map itemOf ++ .mem (.array i) :: r.map itemOf := by
        have := mem_heap_not_mem_live s.live k
        rwa [e, List.map_append, List.map_cons] at this
      exact (repr.put_link (h.static _) unlisted (heap_not_mem_free _ _)).trans (h.embedded k)
    · simpa using h.allowed
  refine ⟨inv, fun _ item hitem e' => ?_⟩
  obtain ⟨x, hx, rfl⟩ := List.mem_map.1 (inv.repr.allocated_eq ▸ hitem)
  have hd := inv.liveData x hx
  rw [hd] at e'
  obtain rfl := Option.some.inj e'
  rw [estep] at hx
  exact notin hx

/-- Destroying an entity that lives in an allocated element: the item put back is not the one
the pool had handed out, which stays in the allocated list. -/
theorem Inv.destroy_dynamic {s : GrowState} {fs : List Nat} (h : Inv s fs) {k : Nat}
    (live : .heap k ∈ s.live) : ¬ CallSound s (.destroy (.heap k)) := by
  intro sound
  have estep : step s (.destroy (.heap k)) = { s with
      pool := s.pool.putMemory (.mem (.heap k)), live := s.live.erase (.heap k) } := by
    simp [step, live]
  have chain := (h.repr.put_stray (h.static (.heap k)) (h.embedded k)
    (mem_heap_not_mem_live _ _) (heap_not_mem_free _ _)).1
  have bound := h.repr.bound
  have alloc : (s.pool.putMemory (.mem (.heap k))).allocated = s.live.map itemOf :=
    chain.walk (by rw [putMemory_size]; omega)
  have here : ItemAddr.heap k ∈ (step s (.destroy (.heap k))).pool.allocated := by
    rw [estep]
    simp only
    rw [alloc]
    exact List.mem_map.2 ⟨_, live, rfl⟩
  refine sound live _ here ?_
  rw [estep]
  simpa [itemOf] using h.liveData _ live

theorem initial_inv {size : Nat} (pos : 0 < size) :
    Inv (initial size) (List.range size).reverse := by
  have h := init_spec (m := (zero : Mempool ItemAddr Element)) .array
    (fun i => .mem (.array i)) (fun a b e => by simpa using e) (fun _ => rfl)
    (fun _ => rfl) pos rfl
  refine ⟨h.repr, by simp [initial], fun i hi => h.data i (by simpa using hi), by simp [initial],
    fun e => h.static _, fun k => h.links _ ?_, h.allowed⟩
  simp

/-- One call, as long as no dynamic entity was destroyed before: it is sound exactly when it does
not destroy one either, and then the representation goes on. -/
theorem Inv.step {s : GrowState} {fs : List Nat} (h : Inv s fs) (op : Op) :
    (KeepsDynamic s op → (∃ fs', Inv (step s op) fs') ∧ CallSound s op) ∧
      (CallSound s op → KeepsDynamic s op) := by
  cases op with
  | create =>
    refine ⟨fun _ => ?_, fun _ k e => by cases e⟩
    cases fs with
    | nil => exact ⟨⟨_, h.create_dynamic.1⟩, h.create_dynamic.2⟩
    | cons i fs => exact ⟨⟨_, h.create_static.1⟩, h.create_static.2⟩
  | destroy e =>
    by_cases live : e ∈ s.live
    · cases e with
      | array i =>
        refine ⟨fun _ => ⟨⟨_, (h.destroy_static live).1⟩, (h.destroy_static live).2⟩, ?_⟩
        rintro _ k ⟨⟩
      | heap k =>
        exact ⟨fun keep => absurd live (keep k rfl), fun sound => absurd sound
          (h.destroy_dynamic live)⟩
    · have same : Growth.step s (.destroy e) = s := by simp [Growth.step, live]
      rw [same]
      refine ⟨fun _ => ⟨⟨fs, h⟩, fun l => absurd l live⟩, fun _ k e' => ?_⟩
      rwa [← Op.destroy.inj e']

/-- **Growth.** In a run of creations and destructions over a pool of any positive static size,
the pool is consistent throughout exactly when no entity that lives in an allocated element is
ever destroyed. -/
theorem consistent_iff_keepsDynamic (size : Nat) (pos : 0 < size) (ops : List Op) :
    Always step Consistent (initial size) ops ↔ Always step KeepsDynamic (initial size) ops := by
  refine always_iff_always (I := fun s => ∃ fs, Inv s fs) ?_ ?_ ⟨_, initial_inv pos⟩
  · rintro s op ⟨fs, h⟩ keep
    exact ((h.step op).1 keep).1
  · rintro s op ⟨fs, h⟩
    refine ⟨fun c => (h.step op).2 c.2.1, fun keep => ?_⟩
    obtain ⟨⟨fs', h'⟩, sound⟩ := (h.step op).1 keep
    exact ⟨h.oneItemEach, sound, h'.oneItemEach⟩

/-- The second creation grows the pool past its one static element, which is then put back. -/
theorem consistent_iff_keepsDynamic_one :
    0 < 1 ∧ Always step Consistent (initial 1) [.create, .create, .destroy (.array 0)] :=
  ⟨by decide, (consistent_iff_keepsDynamic 1 (by decide) _).2 (by simp [Always, KeepsDynamic])⟩

/-- One static element, two creations, and the second entity destroyed again: its item stays in
the allocated list, and the next creation is handed an item without an element. -/
theorem dynamic_destroy_leaves_item :
    ¬ ∀ size ops, 0 < size → Always step Consistent (initial size) ops := by
  intro h
  have run := always_iff.1 (h 1 [.create, .create, .destroy (.heap 1)] (by decide))
    [.create, .create] (.destroy (.heap 1)) [] rfl
  exact run.2.1 (by decide) (.heap 1) (by decide) (by decide)

example :
    let s := exec step (initial 1) [.create, .create, .destroy (.heap 1), .create]
    s.pool.allocateditems = some (.mem (.heap 1)) ∧ s.pool.data (.mem (.heap 1)) = none := by
  decide

end RmwMicroxrcedds.Growth
