import Mathlib.Order.Lattice
import Mathlib.Data.List.Basic

/-!
# The scan for the earliest of the relevant items

A scan keeps the best item so far and its key, starts from nothing and a bound, and replaces the
item only by a strictly smaller key. What it returns is the first of the smallest relevant items
below the bound: items before it in the list have larger keys, items behind it no smaller ones.
-/

namespace Earliest

variable {α κ : Type} [LinearOrder κ] (p : α → Prop) [DecidablePred p] (key : α → κ)

/-- One step of the scan. -/
def scan (found : Option α × κ) (x : α) : Option α × κ :=
  if p x ∧ key x < found.2 then (some x, key x) else found

/-- `x` is the first among the smallest relevant items of the list. -/
structure First (l : List α) (x : α) (before after : List α) : Prop where
  split : l = before ++ x :: after
  relevant : p x
  before_lt : ∀ y ∈ before, p y → key x < key y
  after_le : ∀ y ∈ after, p y → key x ≤ key y

variable {p key}

omit [DecidablePred p] in
theorem First.mem {l before after : List α} {x : α} (h : First p key l x before after) : x ∈ l := by
  rw [h.split]
  simp

omit [DecidablePred p] in
theorem First.le {l before after : List α} {x : α} (h : First p key l x before after) {y : α}
    (hy : y ∈ l) (py : p y) : key x ≤ key y := by
  rw [h.split, List.mem_append, List.mem_cons] at hy
  rcases hy with hy | rfl | hy
  · exact le_of_lt (h.before_lt y hy py)
  · exact le_rfl
  · exact h.after_le y hy py

variable {ρ : Type} [LinearOrder ρ] {rank : α → ρ}

/-- For `x` in front of `y`, the keys order the two as the ranks do, and if the keys are equal `x`
ranks lower. -/
def Agree (key : α → κ) (rank : α → ρ) (x y : α) : Prop :=
  (key x ≤ key y ∧ rank x < rank y) ∨ (key y < key x ∧ rank y < rank x)

omit [DecidablePred p] in
/-- Where keys and ranks agree along the list, the first of the smallest items ranks lowest. -/
theorem First.rank_lt {l before after : List α} {x : α} (h : First p key l x before after)
    (agree : l.Pairwise fun y z => p y → p z → Agree key rank y z) {y : α} (hy : y ∈ l) (py : p y)
    (ne : y ≠ x) : rank x < rank y := by
  rw [h.split, List.mem_append, List.mem_cons] at hy
  rw [h.split, List.pairwise_append, List.pairwise_cons] at agree
  obtain ⟨-, ⟨behind, -⟩, across⟩ := agree
  rcases hy with hy | rfl | hy
  · rcases across y hy x List.mem_cons_self py h.relevant with ⟨le, -⟩ | ⟨-, lt⟩
    · exact absurd (h.before_lt y hy py) (not_lt_of_ge le)
    · exact lt
  · exact absurd rfl ne
  · rcases behind y hy h.relevant py with ⟨-, lt⟩ | ⟨lt, -⟩
    · exact lt
    · exact absurd (h.after_le y hy py) (not_le_of_gt lt)

variable (p key) in
/-- Of two relevant items with one key the scan returns the one nearer the head. -/
theorem scan_foldl (l : List α) (found : Option α) (bound : κ) :
    (l.foldl (scan p key) (found, bound) = (found, bound) ∧ ∀ x ∈ l, p x → bound ≤ key x) ∨
      ∃ x before after, First p key l x before after ∧ key x < bound ∧
        l.foldl (scan p key) (found, bound) = (some x, key x) := by
  induction l generalizing found bound with
  | nil => exact .inl ⟨rfl, by simp⟩
  | cons a l ih =>
    by_cases ha : p a ∧ key a < bound
    · have step : scan p key (found, bound) a = (some a, key a) := if_pos ha
      rw [List.foldl_cons, step]
      rcases ih (some a) (key a) with ⟨e, ge⟩ | ⟨x, before, after, first, lt, e⟩
      · exact .inr ⟨a, [], l, ⟨rfl, ha.1, by simp, ge⟩, ha.2, e⟩
      · refine .inr ⟨x, a :: before, after, ⟨by rw [first.split]; rfl, first.relevant, ?_,
          first.after_le⟩, lt_trans lt ha.2, e⟩
        rintro y hy py
        rcases List.mem_cons.1 hy with rfl | hy
        · exact lt
        · exact first.before_lt y hy py
    · have step : scan p key (found, bound) a = (found, bound) := if_neg ha
      rw [List.foldl_cons, step]
      have ge : p a → bound ≤ key a := fun pa => le_of_not_gt fun lt => ha ⟨pa, lt⟩
      rcases ih found bound with ⟨e, all⟩ | ⟨x, before, after, first, lt, e⟩
      · refine .inl ⟨e, fun x hx px => ?_⟩
        rcases List.mem_cons.1 hx with rfl | hx
        · exact ge px
        · exact all x hx px
      · refine .inr ⟨x, a :: before, after, ⟨by rw [first.split]; rfl, first.relevant, ?_,
          first.after_le⟩, lt, e⟩
        rintro y hy py
        rcases List.mem_cons.1 hy with rfl | hy
        · exact lt_of_lt_of_le lt (ge py)
        · exact first.before_lt y hy py

/-- The scan finds nothing exactly when no relevant item is below the bound. -/
theorem scan_eq_none {l : List α} {bound : κ} :
    (l.foldl (scan p key) (none, bound)).1 = none ↔ ∀ x ∈ l, p x → bound ≤ key x := by
  rcases scan_foldl p key l none bound with ⟨e, all⟩ | ⟨x, before, after, first, lt, e⟩
  · simpa [e] using all
  · simp only [e, reduceCtorEq, false_iff]
    exact fun all => not_le_of_gt lt (all x first.mem first.relevant)

/-- What the scan finds is the first of the smallest relevant items. -/
theorem scan_eq_some {l : List α} {bound : κ} {x : α}
    (h : (l.foldl (scan p key) (none, bound)).1 = some x) :
    ∃ before after, First p key l x before after ∧ key x < bound := by
  rcases scan_foldl p key l none bound with ⟨e, -⟩ | ⟨y, before, after, first, lt, e⟩
  · simp [e] at h
  · simp only [e, Option.some.injEq] at h
    subst h
    exact ⟨before, after, first, lt⟩

end Earliest
