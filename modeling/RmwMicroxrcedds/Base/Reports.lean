import Mathlib.Data.List.Basic

/-!
# What a result says about a dialogue

A caller makes requests one after the other. Some wait for an answer, which is the next of a list
and, once the list has ended, negative; the others are taken for confirmed. Of the answers only some
count for the result the caller reports. A caller that goes on with another dialogue and reports only
the result of the last one makes the answers it has heard before count no more.
-/

namespace Reports

variable {α : Type}

/-- A request, whether it waits for an answer, and whether the answer counts. -/
structure Ask (α : Type) where
  request : α
  waits : Bool
  counts : Bool
deriving DecidableEq

/-- The request, with its answer ignored. -/
def Ask.hush (a : Ask α) : Ask α := { a with counts := false }

/-- The requests with what becomes of them. -/
def heard : List (Ask α) → List Bool → List (Ask α × Bool)
  | [], _ => []
  | a :: as, bs =>
    if a.waits then (a, bs.headD false) :: heard as bs.tail else (a, true) :: heard as bs

/-- The answers left. -/
def rest : List (Ask α) → List Bool → List Bool
  | [], bs => bs
  | a :: as, bs => if a.waits then rest as bs.tail else rest as bs

/-- The result reported: whether all requests that count are confirmed. -/
def verdict (as : List (Ask α)) (bs : List Bool) : Bool :=
  (heard as bs).all fun p => !p.1.counts || p.2

/-- Another dialogue, whose result replaces the one before. -/
def follow (done as : List (Ask α)) : List (Ask α) := done.map Ask.hush ++ as

section Append

variable (as cs : List (Ask α)) (bs : List Bool)

theorem rest_append : rest (as ++ cs) bs = rest cs (rest as bs) := by
  induction as generalizing bs with
  | nil => rfl
  | cons a as ih =>
    rw [List.cons_append, rest, rest]
    split
    · exact ih _
    · exact ih _

theorem heard_append : heard (as ++ cs) bs = heard as bs ++ heard cs (rest as bs) := by
  induction as generalizing bs with
  | nil => rfl
  | cons a as ih =>
    rw [List.cons_append, heard, heard, rest]
    split
    · rw [ih, List.cons_append]
    · rw [ih, List.cons_append]

theorem verdict_append : verdict (as ++ cs) bs = (verdict as bs && verdict cs (rest as bs)) := by
  rw [verdict, heard_append, List.all_append]
  rfl

/-- Where no answer counts there is nothing to report. -/
theorem verdict_of_hushed {as : List (Ask α)} (h : ∀ a ∈ as, a.counts = false) (bs : List Bool) :
    verdict as bs = true := by
  induction as generalizing bs with
  | nil => rfl
  | cons a as ih =>
    have first := h a List.mem_cons_self
    have later : ∀ bs, verdict as bs = true := ih fun a ha => h a (List.mem_cons_of_mem _ ha)
    rw [verdict, heard]
    split
    · rw [List.all_cons, first]
      exact later _
    · rw [List.all_cons, first]
      exact later _

theorem verdict_cons_of_hushed {a : Ask α} (h : a.counts = false) :
    verdict (a :: as) bs = verdict as (rest [a] bs) := by
  have nothing : verdict [a] bs = true :=
    verdict_of_hushed (fun b hb => by rw [List.mem_singleton.1 hb, h]) bs
  have split := verdict_append [a] as bs
  rwa [nothing, Bool.true_and] at split

theorem rest_hush : rest (as.map Ask.hush) bs = rest as bs := by
  induction as generalizing bs with
  | nil => rfl
  | cons a as ih =>
    rw [List.map_cons, rest, rest, ih, ih]
    rfl

theorem heard_hush : heard (as.map Ask.hush) bs = (heard as bs).map fun p => (p.1.hush, p.2) := by
  induction as generalizing bs with
  | nil => rfl
  | cons a as ih =>
    rw [List.map_cons, heard, heard, ih, ih]
    show (if a.waits = true then _ else _) = _
    split
    · rfl
    · rfl

theorem verdict_hush : verdict (as.map Ask.hush) bs = true := by
  apply verdict_of_hushed
  intro a ha
  obtain ⟨b, -, rfl⟩ := List.mem_map.1 ha
  rfl

/-- Only the last dialogue is reported. -/
theorem verdict_follow : verdict (follow as cs) bs = verdict cs (rest as bs) := by
  rw [follow, verdict_append, verdict_hush, rest_hush, Bool.true_and]

theorem mem_of_mem_heard {p : Ask α × Bool} (h : p ∈ heard as bs) : p.1 ∈ as := by
  induction as generalizing bs with
  | nil => cases h
  | cons a as ih =>
    rw [heard] at h
    split at h
    · rcases List.mem_cons.1 h with rfl | h
      · exact List.mem_cons_self
      · exact List.mem_cons_of_mem _ (ih _ h)
    · rcases List.mem_cons.1 h with rfl | h
      · exact List.mem_cons_self
      · exact List.mem_cons_of_mem _ (ih _ h)

end Append

section Faithful

variable {relevant : α → Bool} {as : List (Ask α)} {bs : List Bool}

/-- All relevant requests are confirmed. -/
def Confirmed (relevant : α → Bool) (as : List (Ask α)) (bs : List Bool) : Prop :=
  ∀ p ∈ heard as bs, relevant p.1.request = true → p.2 = true

instance : Decidable (Confirmed relevant as bs) :=
  inferInstanceAs (Decidable (∀ p ∈ heard as bs, relevant p.1.request = true → p.2 = true))

theorem verdict_iff : verdict as bs = true ↔ ∀ p ∈ heard as bs, p.1.counts = true → p.2 = true := by
  rw [verdict, List.all_eq_true]
  refine forall₂_congr fun p _ => ?_
  cases p.1.counts <;> simp

/-- If only relevant requests count, a positive result is deserved as soon as it implies that all of
them are confirmed. -/
theorem verdict_iff_confirmed_iff (counted : ∀ a ∈ as, a.counts = true → relevant a.request = true) :
    (verdict as bs = true ↔ Confirmed relevant as bs) ↔
      (verdict as bs = true → Confirmed relevant as bs) := by
  refine ⟨fun h => h.1, fun h => ⟨h, fun all => verdict_iff.2 fun p hp counts => ?_⟩⟩
  exact all p hp (counted p.1 (mem_of_mem_heard as bs hp) counts)

end Faithful

end Reports
