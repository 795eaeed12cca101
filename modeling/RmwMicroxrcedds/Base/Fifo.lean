import Mathlib.Data.List.Sort

/-!
# Bounded queues

A queue of bounded depth takes newcomers at its end and gives up its head. When it is full, its
policy says whether the head goes or the newcomer does. Depth 0 is no bound. The queue reached by a
log of operations is the specification; the last section is for implementations that keep the items
in another order and tell their age from a key.
-/

namespace Fifo

variable {α : Type}

/-- What happens to a newcomer when the queue is full. -/
inductive Policy where
  | evict | refuse
deriving DecidableEq

structure Bound where
  depth : Nat
  policy : Policy
deriving DecidableEq

/-- An item may be appended. -/
def Bound.Room (b : Bound) (count : Nat) : Prop := b.depth = 0 ∨ count < b.depth

instance (b : Bound) (count : Nat) : Decidable (b.Room count) := inferInstanceAs (Decidable (_ ∨ _))

inductive Op (α : Type) where
  | push (x : α)
  | pop

/-- Offering an item. -/
def push (b : Bound) (q : List α) (x : α) : List α :=
  if b.Room q.length then q ++ [x]
  else
    match b.policy with
    | .evict => q.tail ++ [x]
    | .refuse => q

def step (b : Bound) : Op α → List α → List α
  | .push x, q => push b q x
  | .pop, q => q.tail

/-- The queue after the operations of a log, which begins with the latest one. -/
def replay (b : Bound) (log : List (Op α)) : List α := log.foldr (step b) []

@[simp] theorem replay_nil (b : Bound) : replay b ([] : List (Op α)) = [] := rfl

@[simp] theorem replay_cons (b : Bound) (op : Op α) (log : List (Op α)) :
    replay b (op :: log) = step b op (replay b log) := rfl

variable {b : Bound} {q : List α} {x : α}

theorem push_of_room (h : b.Room q.length) : push b q x = q ++ [x] := if_pos h

theorem push_of_evict (h : ¬ b.Room q.length) (policy : b.policy = .evict) :
    push b q x = q.tail ++ [x] := by
  rw [push, if_neg h, policy]

theorem push_of_refuse (h : ¬ b.Room q.length) (policy : b.policy = .refuse) : push b q x = q := by
  rw [push, if_neg h, policy]

/-! ## What every queue satisfies -/

theorem length_push_le (pos : 0 < b.depth) (h : q.length ≤ b.depth) : (push b q x).length ≤ b.depth := by
  by_cases room : b.Room q.length
  · have lt : q.length < b.depth := room.resolve_left (by omega)
    rw [push_of_room room, List.length_append, List.length_singleton]
    omega
  · have full : b.depth ≤ q.length := by
      by_contra lt
      exact room (.inr (by omega))
    cases policy : b.policy with
    | evict =>
      rw [push_of_evict room policy, List.length_append, List.length_tail, List.length_singleton]
      omega
    | refuse =>
      rw [push_of_refuse room policy]
      exact h

/-- A bounded queue never exceeds its depth. -/
theorem length_replay_le (pos : 0 < b.depth) (log : List (Op α)) :
    (replay b log).length ≤ b.depth := by
  induction log with
  | nil => exact Nat.zero_le _
  | cons op log ih =>
    cases op with
    | push x => exact length_push_le pos ih
    | pop =>
      have shorter : ((replay b log).tail).length ≤ (replay b log).length := by
        rw [List.length_tail]
        omega
      exact shorter.trans ih

/-- The items stay ordered while each newcomer is above all of them. -/
theorem pairwise_push {r : α → α → Prop} (h : q.Pairwise r) (above : ∀ y ∈ q, r y x) :
    (push b q x).Pairwise r := by
  have append : ∀ {l : List α}, l.Sublist q → (l ++ [x]).Pairwise r := fun sub =>
    List.pairwise_append.2 ⟨h.sublist sub, List.pairwise_singleton _ _, fun y hy z hz =>
      List.mem_singleton.1 hz ▸ above y (sub.subset hy)⟩
  by_cases room : b.Room q.length
  · rw [push_of_room room]
    exact append (List.Sublist.refl q)
  · cases policy : b.policy with
    | evict =>
      rw [push_of_evict room policy]
      exact append (List.tail_sublist q)
    | refuse =>
      rw [push_of_refuse room policy]
      exact h

/-! ## Queues kept in another order -/

section Linear

variable {κ : Type} [LinearOrder κ] {a : κ} {p l : List κ}

/-- The least item heads a queue in increasing order. -/
theorem head_of_perm (sorted : p.Pairwise (· < ·)) (perm : p.Perm (a :: l))
    (least : ∀ y ∈ l, a < y) : p = a :: p.tail ∧ p.tail.Perm l := by
  cases p with
  | nil => exact absurd perm.length_eq (by simp)
  | cons x p =>
    rw [List.pairwise_cons] at sorted
    have head : x = a := by
      by_contra ne
      have behind : a ∈ p :=
        (List.mem_cons.1 (perm.mem_iff.2 List.mem_cons_self)).resolve_left (Ne.symm ne)
      have ahead : x ∈ l :=
        (List.mem_cons.1 (perm.mem_iff.1 List.mem_cons_self)).resolve_left ne
      exact lt_asymm (sorted.1 a behind) (least x ahead)
    subst head
    exact ⟨rfl, perm.cons_inv⟩

/-- A queue in increasing order is what sorting its items gives. -/
theorem insertionSort_eq_of_perm (sorted : p.Pairwise (· < ·)) (perm : l.Perm p) :
    l.insertionSort (· ≤ ·) = p :=
  ((List.perm_insertionSort _ l).trans perm).eq_of_pairwise' (List.pairwise_insertionSort _ l)
    (sorted.imp le_of_lt)

end Linear

end Fifo
