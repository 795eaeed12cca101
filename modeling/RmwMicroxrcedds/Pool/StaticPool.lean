import RmwMicroxrcedds.Pool.TwoLists
import RmwMicroxrcedds.Model.Pools

/-!
# Pools over a static array

`Slots.Ok t n` is the invariant of a pool over an array of `n` elements in a build without dynamic
allocation: every element is in exactly one of the two lists, and every item points to the element
it is embedded in. Above this module a pool is the list `elements` of its allocated elements.
-/

namespace RmwMicroxrcedds
set_option autoImplicit false

namespace Slots

variable {β : Type}

/-- The invariant of a static pool. Before its initialisation a pool is zeroed storage. -/
structure Ok (t : Slots β) (n : Nat) : Prop where
  fresh : t.memory.isInitialized = false → t.memory = .zero
  size : t.memory.isInitialized = true → t.memory.size = n
  static : ∀ x, t.memory.isDynamicMemory x = false
  data : ∀ x < t.memory.size, t.memory.data x = some x
  elem : ∀ x, t.memory.elem x = x
  lists : ∃ as fs, t.memory.Repr as fs ∧ (as ++ fs).Perm (List.range t.memory.size)

theorem zero_ok [Inhabited β] (n : Nat) : (zero : Slots β).Ok n where
  fresh _ := rfl
  size h := by simp [zero, Mempool.zero] at h
  static _ := rfl
  data x h := by simp [zero, Mempool.zero] at h
  elem _ := rfl
  lists := ⟨[], [], Mempool.zero_repr, by simp [zero, Mempool.zero]⟩

variable {t : Slots β} {n : Nat}

/-- The elements in use are the items of the allocated list. -/
theorem elements_eq (elem : ∀ x, t.memory.elem x = x) {as fs : List Nat}
    (r : t.memory.Repr as fs) : t.elements = as := by
  have : t.memory.elem = id := funext elem
  rw [elements, Mempool.elements, r.allocated_eq, this, List.map_id]

/-- The invariant, in terms of the elements in use. -/
theorem Ok.split (ok : t.Ok n) :
    ∃ fs, t.memory.Repr t.elements fs ∧ (t.elements ++ fs).Perm (List.range t.memory.size) := by
  obtain ⟨as, fs, r, p⟩ := ok.lists
  rw [elements_eq ok.elem r]
  exact ⟨fs, r, p⟩

theorem Ok.nodup (ok : t.Ok n) : t.elements.Nodup := by
  obtain ⟨fs, r, -⟩ := ok.split
  exact r.nodup_allocated

theorem Ok.lt (ok : t.Ok n) {i : Nat} (h : i ∈ t.elements) : i < t.memory.size := by
  obtain ⟨fs, -, p⟩ := ok.split
  exact List.mem_range.1 (p.mem_iff.1 (List.mem_append_left _ h))

theorem Ok.allocated_eq (ok : t.Ok n) : t.memory.allocated = t.elements := by
  obtain ⟨fs, r, -⟩ := ok.split
  exact r.allocated_eq

theorem Ok.head (ok : t.Ok n) : t.memory.allocateditems = t.elements.head? := by
  obtain ⟨fs, r, -⟩ := ok.split
  exact r.allocated.head

/-- The forward link of an item is its successor. -/
theorem Ok.next (ok : t.Ok n) {l r : List Nat} {i : Nat} (h : t.elements = l ++ i :: r) :
    (t.memory.link i).next = r.head? := by
  obtain ⟨fs, repr, -⟩ := ok.split
  have chain := repr.allocated
  rw [h] at chain
  exact chain.links.2

/-- No walk along the list takes more steps than the pool has items. -/
theorem Ok.length_le (ok : t.Ok n) : t.elements.length ≤ t.memory.size := by
  obtain ⟨fs, repr, -⟩ := ok.split
  exact (Nat.le_add_right _ _).trans repr.bound

/-- The free list holds the elements that are not in use. -/
theorem Ok.mem_free (ok : t.Ok n) {i : Nat} :
    i ∈ t.memory.free ↔ i < t.memory.size ∧ i ∉ t.elements := by
  obtain ⟨fs, r, p⟩ := ok.split
  have nodup : (t.elements ++ fs).Nodup := p.nodup_iff.2 List.nodup_range
  have apart := List.disjoint_of_nodup_append nodup
  rw [r.free_eq]
  constructor
  · intro free
    exact ⟨List.mem_range.1 (p.mem_iff.1 (List.mem_append_right _ free)), fun used => apart used free⟩
  · rintro ⟨lt, unused⟩
    exact (List.mem_append.1 (p.mem_iff.2 (List.mem_range.2 lt))).resolve_left unused

/-- While an element is free, fewer are in use than the pool has. -/
theorem Ok.length_lt (ok : t.Ok n) {i : Nat} (free : i ∉ t.elements) (lt : i < t.memory.size) :
    t.elements.length < t.memory.size := by
  obtain ⟨fs, -, p⟩ := ok.split
  have mem : i ∈ fs :=
    (List.mem_append.1 (p.mem_iff.2 (List.mem_range.2 lt))).resolve_left free
  have length := p.length_eq
  rw [List.length_append, List.length_range] at length
  have pos := List.length_pos_of_mem mem
  omega

/-! ## Writing fields -/

@[simp] theorem update_memory (t : Slots β) (i : Nat) (f : β → β) :
    (t.update i f).memory = t.memory := rfl

@[simp] theorem update_elements (t : Slots β) (i : Nat) (f : β → β) :
    (t.update i f).elements = t.elements := rfl

@[simp] theorem update_custom_self (t : Slots β) (i : Nat) (f : β → β) :
    (t.update i f).custom i = f (t.custom i) := setAt_self ..

theorem update_custom_of_ne (t : Slots β) {i j : Nat} (f : β → β) (h : j ≠ i) :
    (t.update i f).custom j = t.custom j := setAt_of_ne _ _ h

/-- The invariant is about the pool only. -/
theorem Ok.of_memory {t' : Slots β} (ok : t.Ok n) (h : t'.memory = t.memory) : t'.Ok n where
  fresh := h ▸ ok.fresh
  size := h ▸ ok.size
  static := h ▸ ok.static
  data := h ▸ ok.data
  elem := h ▸ ok.elem
  lists := h ▸ ok.lists

theorem Ok.update (ok : t.Ok n) (i : Nat) (f : β → β) : (t.update i f).Ok n := ok.of_memory rfl

/-! ## `get_memory` -/

@[simp] theorem get_custom (t : Slots β) : t.get.2.custom = t.custom := rfl

/-- `get_memory` fails exactly when no element is free, and then changes nothing. -/
theorem Ok.get_none (ok : t.Ok n) (h : t.get.1 = none) : t.get.2 = t := by
  obtain ⟨fs, r, -⟩ := ok.split
  cases fs with
  | nil => rw [get, r.getMemory_none]
  | cons i fs => simp [get, r.getMemory_some] at h

/-- `get_memory` hands out an element that was free; the elements in use are the old ones behind
it. -/
theorem Ok.get_some (ok : t.Ok n) {i : Nat} (h : t.get.1 = some i) :
    t.get.2.Ok n ∧ i ∉ t.elements ∧ i < t.memory.size ∧ t.get.2.elements = i :: t.elements := by
  obtain ⟨fs, r, p⟩ := ok.split
  cases fs with
  | nil => simp [get, r.getMemory_none] at h
  | cons x fs =>
    have lt : x < t.memory.size := List.mem_range.1 (p.mem_iff.1 (by simp))
    have e : t.get = (some (t.memory.elem x), { t with memory := t.memory.getFree x }) := by
      simp [get, r.getMemory_some, Mempool.elem]
    have hx : x = i := by simpa [e, ok.elem] using h
    subst hx
    have r' : (t.memory.getFree x).Repr (x :: t.elements) fs := r.getFree
    have p' : ((x :: t.elements) ++ fs).Perm (List.range t.memory.size) :=
      List.perm_middle.symm.trans p
    have ok' : t.get.2.Ok n := by
      rw [e]
      exact ⟨fun f => by simpa [f, Mempool.zero] using (ok.fresh f ▸ lt : x < (Mempool.zero).size),
        ok.size, ok.static, ok.data, ok.elem, _, _, r', p'⟩
    refine ⟨ok', fun hi => r.disjoint hi (by simp), lt, ?_⟩
    rw [e]
    exact elements_eq (t := { t with memory := t.memory.getFree x }) ok.elem r'

theorem Ok.get_size (ok : t.Ok n) : t.get.2.memory.size = t.memory.size := by
  obtain ⟨fs, r, -⟩ := ok.split
  cases fs with
  | nil => simp [get, r.getMemory_none]
  | cons x fs => simp [get, r.getMemory_some, Mempool.getFree]

/-- While an element is free, `get_memory` succeeds. -/
theorem Ok.get_isSome (ok : t.Ok n) (room : t.elements.length < t.memory.size) :
    t.get.1.isSome := by
  obtain ⟨fs, r, p⟩ := ok.split
  cases fs with
  | nil =>
    have := p.length_eq
    simp only [List.append_nil, List.length_range] at this
    omega
  | cons x fs => simp [get, r.getMemory_some]

/-! ## `put_memory` -/

@[simp] theorem put_custom (t : Slots β) (i : Nat) : (t.put i).custom = t.custom := rfl

@[simp] theorem put_size (t : Slots β) (i : Nat) : (t.put i).memory.size = t.memory.size := by
  simp [Slots.put]

/-- `put_memory` of an element in use takes it out of the list, wherever it stands. -/
theorem Ok.put (ok : t.Ok n) {i : Nat} (h : i ∈ t.elements) :
    (t.put i).Ok n ∧ (t.put i).elements = t.elements.erase i := by
  obtain ⟨fs, r, p⟩ := ok.split
  obtain ⟨l, r', e⟩ := List.append_of_mem h
  have nodup := ok.nodup
  have ie : (l ++ i :: r').erase i = l ++ r' := by
    rw [List.erase_append_right, List.erase_cons_head]
    rw [e, List.nodup_append] at nodup
    exact fun hl => nodup.2.2 i hl i (by simp) rfl
  rw [e] at r p
  have rep := r.put (ok.static i)
  have perm : ((l ++ r') ++ (i :: fs)).Perm (List.range t.memory.size) := by
    refine List.Perm.trans ?_ p
    rw [List.append_assoc, List.append_assoc]
    exact List.perm_middle.append_left l
  have elem : ∀ x, (t.put i).memory.elem x = x := by simpa [Slots.put, Mempool.elem] using ok.elem
  refine ⟨⟨fun f => ?_, ?_, ?_, ?_, elem, l ++ r', i :: fs, rep, by simpa [Slots.put] using perm⟩, ?_⟩
  · have f' : t.memory.isInitialized = false := by simpa [Slots.put] using f
    have lt := ok.lt h
    simp [ok.fresh f', Mempool.zero] at lt
  · simpa [Slots.put] using ok.size
  · simpa [Slots.put] using ok.static
  · simpa [Slots.put] using ok.data
  · rw [e, ie]
    exact elements_eq (t := t.put i) elem rep

/-- `put_memory` of a free element that does not head the free list moves it to the head. -/
theorem Ok.put_free (ok : t.Ok n) {i : Nat} (lt : i < t.memory.size) (free : i ∉ t.elements)
    (head : t.memory.freeitems ≠ some i) : (t.put i).Ok n ∧ (t.put i).elements = t.elements := by
  obtain ⟨fs, repr, p⟩ := ok.split
  have mem : i ∈ fs := (List.mem_append.1 (p.mem_iff.2 (List.mem_range.2 lt))).resolve_left free
  have elem : ∀ x, (t.put i).memory.elem x = x := by simpa [Slots.put, Mempool.elem] using ok.elem
  obtain ⟨l, r, e⟩ := List.append_of_mem mem
  cases l with
  | nil =>
    rw [repr.free.head, e] at head
    exact absurd rfl head
  | cons f l =>
    rw [e] at repr p
    have rep := repr.put_free (ok.static i)
    have perm : (t.elements ++ i :: (f :: l ++ r)).Perm (List.range t.memory.size) :=
      (List.perm_middle.symm.append_left _).trans p
    refine ⟨⟨fun h => ?_, ?_, ?_, ?_, elem, _, _, rep, by simpa [Slots.put] using perm⟩, ?_⟩
    · have fresh : t.memory.isInitialized = false := by simpa [Slots.put] using h
      simp [ok.fresh fresh, Mempool.zero] at lt
    · simpa [Slots.put] using ok.size
    · simpa [Slots.put] using ok.static
    · simpa [Slots.put] using ok.data
    · exact elements_eq (t := t.put i) elem rep

/-! ## `RMW_INIT_MEMORY` -/

@[simp] theorem init_custom (t : Slots β) (size : Nat) : (t.init size).custom = t.custom := rfl

/-- The initialisation keeps the elements in use: there are none before the first one, and a
later one does nothing. -/
theorem Ok.init (ok : t.Ok n) :
    (t.init n).Ok n ∧ (t.init n).elements = t.elements ∧
      (t.init n).memory.size = n := by
  cases hi : t.memory.isInitialized with
  | true =>
    have e : t.init n = t := by
      rw [Slots.init, Mempool.init_again hi]
    rw [e]
    exact ⟨ok, rfl, ok.size hi⟩
  | false =>
    have zero := ok.fresh hi
    have empty : t.elements = [] := by simp [elements, Mempool.elements, zero, Mempool.allocated,
      Mempool.zero, Intrusive.walk]
    rcases Nat.eq_zero_or_pos n with rfl | pos
    · have e : t.init 0 = t := by simp [Slots.init, Mempool.init]
      rw [e]
      exact ⟨ok, rfl, by simp [zero, Mempool.zero]⟩
    · have spec := Mempool.init_spec (m := t.memory) id id
        Function.injective_id (by simp [zero, Mempool.zero]) ok.static pos hi
      have size : (t.init n).memory.size = n := spec.size
      have repr : (t.init n).memory.Repr [] (List.range n).reverse := by
        have := spec.repr
        rwa [List.map_id] at this
      have data : ∀ x < (t.init n).memory.size, (t.init n).memory.data x = some x := by
        rw [size]
        exact spec.data
      have perm : ([] ++ (List.range n).reverse).Perm (List.range (t.init n).memory.size) := by
        rw [size]
        exact List.reverse_perm _
      have elem : ∀ x, (t.init n).memory.elem x = x := fun x => by
        by_cases hx : x < n
        · simp [Mempool.elem, data x (size.symm ▸ hx)]
        · have : (t.init n).memory.data x = none := by
            refine (spec.dataOther x (by simpa using hx)).trans ?_
            simp [Mempool.started, zero, Mempool.zero]
          simp [Mempool.elem, this]
      refine ⟨⟨fun f => ?_, fun _ => size, spec.static, data, elem, _, _, repr, perm⟩, ?_, size⟩
      · have := spec.initialized
        simp only [Mempool.started] at this
        exact absurd (f.symm.trans this) (by simp)
      · rw [empty]
        exact elements_eq elem repr

end Slots

end RmwMicroxrcedds
