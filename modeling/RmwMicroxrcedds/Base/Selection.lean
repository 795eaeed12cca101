import RmwMicroxrcedds.Base.Earliest
import Mathlib.Data.List.Sort

/-!
# Repeated selection

Items are taken out of a list one after another, each the first of the smallest ones left. What was
taken is ordered by the keys and nothing left is smaller. Where keys and ranks agree along the list,
it is also what sorting by rank puts in front.
-/

namespace Earliest

variable {α κ : Type} [DecidableEq α] [LinearOrder κ] {key : α → κ}

/-- Taking `xs` out of `l` by selection leaves `rest`. -/
inductive Picks (key : α → κ) : List α → List α → List α → Prop
  | nil (l : List α) : Picks key l [] l
  | cons {l : List α} {x : α} {before after xs rest : List α}
      (first : First (fun _ => True) key l x before after) (later : Picks key (l.erase x) xs rest) :
      Picks key l (x :: xs) rest

variable {l xs rest : List α}

theorem Picks.perm (h : Picks key l xs rest) : l.Perm (xs ++ rest) := by
  induction h with
  | nil => exact List.Perm.refl _
  | cons first later ih => exact (List.perm_cons_erase first.mem).trans (ih.cons _)

/-- What was taken is ordered by the keys. -/
theorem Picks.sorted (h : Picks key l xs rest) : xs.Pairwise fun x y => key x ≤ key y := by
  induction h with
  | nil => exact List.Pairwise.nil
  | cons first later ih =>
    rw [List.pairwise_cons]
    refine ⟨fun y hy => ?_, ih⟩
    apply first.le _ trivial
    exact List.mem_of_mem_erase (later.perm.mem_iff.2 (List.mem_append_left _ hy))

/-- Nothing left is smaller than what was taken. -/
theorem Picks.le_rest (h : Picks key l xs rest) : ∀ x ∈ xs, ∀ y ∈ rest, key x ≤ key y := by
  induction h with
  | nil => simp
  | cons first later ih =>
    intro x hx y hy
    rcases List.mem_cons.1 hx with rfl | hx
    · apply first.le _ trivial
      exact List.mem_of_mem_erase (later.perm.mem_iff.2 (List.mem_append_right _ hy))
    · exact ih x hx y hy

/-- What is left of a list without repetitions stands in its order. -/
theorem Picks.rest_eq (h : Picks key l xs rest) (nodup : l.Nodup) : rest = l.filter (· ∉ xs) := by
  induction h with
  | nil => simp
  | cons first later ih =>
    rename_i l x before after xs rest
    rw [ih (nodup.erase x), nodup.erase_eq_filter, List.filter_filter]
    apply List.filter_congr
    intro y hy
    by_cases e : y = x
    · simp [e]
    · simp [e]

section Ranks

variable {ρ : Type} [LinearOrder ρ] {rank : α → ρ}

/-- Where keys and ranks agree along the list, what was taken ranks before what is left. -/
theorem Picks.sorted_rank (h : Picks key l xs rest) (nodup : l.Nodup)
    (agree : l.Pairwise (Agree key rank)) :
    xs.Pairwise (fun x y => rank x < rank y) ∧ ∀ x ∈ xs, ∀ y ∈ rest, rank x < rank y := by
  induction h with
  | nil => simp
  | cons first later ih =>
    rename_i l x before after xs rest
    obtain ⟨sorted, below⟩ := ih (nodup.erase x) (agree.sublist List.erase_sublist)
    have least : ∀ y ∈ l.erase x, rank x < rank y := by
      intro y hy
      obtain ⟨ne, mem⟩ := nodup.mem_erase_iff.1 hy
      exact first.rank_lt (agree.imp fun h _ _ => h) mem trivial ne
    constructor
    · rw [List.pairwise_cons]
      refine ⟨fun y hy => ?_, sorted⟩
      exact least y (later.perm.mem_iff.2 (List.mem_append_left _ hy))
    · intro z hz y hy
      rcases List.mem_cons.1 hz with rfl | hz
      · exact least y (later.perm.mem_iff.2 (List.mem_append_right _ hy))
      · exact below z hz y hy

/-- Then the ranks taken are the least ones, in order. -/
theorem Picks.take_insertionSort (h : Picks key l xs rest) (nodup : l.Nodup)
    (agree : l.Pairwise (Agree key rank)) :
    xs.map rank = ((l.map rank).insertionSort (· ≤ ·)).take xs.length := by
  obtain ⟨sorted, below⟩ := h.sorted_rank nodup agree
  have sort : (l.map rank).insertionSort (· ≤ ·) =
      xs.map rank ++ (rest.map rank).insertionSort (· ≤ ·) := by
    have perm : ((l.map rank).insertionSort (· ≤ ·)).Perm
        (xs.map rank ++ (rest.map rank).insertionSort (· ≤ ·)) := by
      refine (List.perm_insertionSort _ _).trans ((h.perm.map rank).trans ?_)
      rw [List.map_append]
      exact List.Perm.append_left _ (List.perm_insertionSort _ _).symm
    apply perm.eq_of_pairwise' (List.pairwise_insertionSort _ _)
    rw [List.pairwise_append]
    refine ⟨List.pairwise_map.2 (sorted.imp le_of_lt), List.pairwise_insertionSort _ _, ?_⟩
    intro r hr r' hr'
    obtain ⟨x, hx, rfl⟩ := List.mem_map.1 hr
    obtain ⟨y, hy, rfl⟩ := List.mem_map.1 ((List.perm_insertionSort _ _).mem_iff.1 hr')
    exact le_of_lt (below x hx y hy)
  rw [sort, List.take_left' (List.length_map _)]

end Ranks

end Earliest
