import Mathlib.Data.List.Nodup

/-!
# A client and a registry

A client asks a registry to create and delete objects, which it names itself. The log holds what was asked,
the latest first, and whether it was confirmed. A log is legal if every request made sense to a registry that
had done what it confirmed before: what is created has a new name, and what is mentioned is there. A client
that numbers the objects of each kind upwards never uses a name twice.
-/

namespace Registry
set_option autoImplicit false

variable {ι κ : Type}

inductive Request (ι : Type) where
  /-- objects with these names, which refer to others -/
  | create (ids uses : List ι)
  | mention (id : ι)
  | delete (id : ι)

/-- What was asked, and whether it was confirmed. -/
abbrev Log (ι : Type) := List (Request ι × Bool)

section Objects

variable [DecidableEq ι]

/-- The objects there are, as far as the client has been told. -/
def objects : Log ι → List ι
  | [] => []
  | (.create ids _, true) :: log => ids ++ objects log
  | (.delete id, true) :: log => (objects log).filter (· ≠ id)
  | _ :: log => objects log

/-- The request makes sense to a registry with these objects. -/
def Request.Admissible (here : List ι) : Request ι → Prop
  | .create ids uses => ids.Nodup ∧ (∀ id ∈ ids, id ∉ here) ∧ ∀ id ∈ uses, id ∈ here
  | .mention id => id ∈ here
  | .delete id => id ∈ here

/-- Every request made sense when it was made. -/
def Legal : Log ι → Prop
  | [] => True
  | r :: log => r.1.Admissible (objects log) ∧ Legal log

theorem mem_objects_create {ids uses : List ι} {b : Bool} {log : Log ι} {id : ι} :
    id ∈ objects ((.create ids uses, b) :: log) ↔ b = true ∧ id ∈ ids ∨ id ∈ objects log := by
  cases b with
  | false =>
    show id ∈ objects log ↔ _
    simp
  | true => simp [objects]

/-! ## Ending -/

/-- Requests that create nothing. -/
def Clears (qs : Log ι) : Prop := ∀ q ∈ qs, ∃ id, q.1 = .mention id ∨ q.1 = .delete id

/-- What is not to be deleted stays. -/
theorem mem_objects_clears {qs log : Log ι} {id : ι} (clears : Clears qs) (here : id ∈ objects log)
    (kept : ∀ b, (.delete id, b) ∉ qs) : id ∈ objects (qs ++ log) := by
  induction qs with
  | nil => exact here
  | cons q qs ih =>
    have rest : id ∈ objects (qs ++ log) := by
      apply ih
      · exact fun q mem => clears q (List.mem_cons_of_mem _ mem)
      · exact fun b mem => kept b (List.mem_cons_of_mem _ mem)
    obtain ⟨request, b⟩ := q
    obtain ⟨id', same | same⟩ := clears _ List.mem_cons_self
    · obtain rfl : request = .mention id' := same
      cases b <;> exact rest
    · obtain rfl : request = .delete id' := same
      cases b with
      | false => exact rest
      | true =>
        apply List.mem_filter.2
        refine ⟨rest, ?_⟩
        simp only [decide_eq_true_eq]
        rintro rfl
        exact kept true List.mem_cons_self

/-- Nothing comes from requests that create nothing. -/
theorem objects_clears_subset {qs log : Log ι} (clears : Clears qs) :
    objects (qs ++ log) ⊆ objects log := by
  induction qs with
  | nil => exact List.Subset.refl _
  | cons q qs ih =>
    have rest : objects (qs ++ log) ⊆ objects log :=
      ih fun q mem => clears q (List.mem_cons_of_mem _ mem)
    obtain ⟨request, b⟩ := q
    obtain ⟨id, same | same⟩ := clears _ List.mem_cons_self
    · obtain rfl : request = .mention id := same
      cases b <;> exact rest
    · obtain rfl : request = .delete id := same
      cases b with
      | false => exact rest
      | true => exact fun x mem => rest (List.mem_filter.1 mem).1

/-- Mentions and deletions of objects that are there, with no mention after the deletion. -/
theorem Legal.clears {qs log : Log ι} (legal : Legal log)
    (here : ∀ q ∈ qs, ∃ id ∈ objects log, q.1 = .mention id ∨ q.1 = .delete id)
    (order : qs.Pairwise fun later earlier =>
      ∀ id, earlier.1 = .delete id → later.1 ≠ .mention id ∧ later.1 ≠ .delete id) :
    Legal (qs ++ log) := by
  induction qs with
  | nil => exact legal
  | cons q qs ih =>
    obtain ⟨last, order⟩ := List.pairwise_cons.1 order
    have rest : Legal (qs ++ log) := ih (fun q mem => here q (List.mem_cons_of_mem _ mem)) order
    have clears : Clears qs := fun q mem =>
      have ⟨id, _, same⟩ := here q (List.mem_cons_of_mem _ mem)
      ⟨id, same⟩
    obtain ⟨id, mem, same⟩ := here q List.mem_cons_self
    have still : id ∈ objects (qs ++ log) := by
      apply mem_objects_clears clears mem
      intro b deleted
      obtain ⟨mentions, deletes⟩ := last _ deleted id rfl
      rcases same with same | same
      · exact mentions same
      · exact deletes same
    refine ⟨?_, rest⟩
    rcases same with same | same
    · rw [same]
      exact still
    · rw [same]
      exact still

end Objects

/-! ## Numbered names -/

section Numbers

variable [DecidableEq ι] {kind : ι → κ} {number : ι → Nat} {n m : κ → Nat} {name : κ → ι}

/-- The numbers of the objects are below the counters of their kinds. -/
def Below (kind : ι → κ) (number : ι → Nat) (n : κ → Nat) (ids : List ι) : Prop :=
  ∀ id ∈ ids, number id < n (kind id)

/-- What a client asks on top of a log when it gives at most one object of each kind a name, which is
the one after the last. The kinds are those a name has been drawn of. -/
inductive Asked (name : κ → ι) (log : Log ι) : List κ → Log ι → Prop
  | nil : Asked name log [] []
  /-- a name that is not used -/
  | draw {ks : List κ} {rs : Log ι} (k : κ) (asked : Asked name log ks rs) : Asked name log (k :: ks) rs
  | create {ks : List κ} {rs : Log ι} (k : κ) (uses : List ι) (b : Bool) (asked : Asked name log ks rs)
      (fresh : k ∉ ks) (here : ∀ p ∈ uses, p ∈ objects (rs ++ log)) :
      Asked name log (k :: ks) ((.create [name k] uses, b) :: rs)

section Asked

variable {log rs : Log ι} {ks : List κ}

theorem Asked.objects_subset (asked : Asked name log ks rs) {id : ι} (here : id ∈ objects log) :
    id ∈ objects (rs ++ log) := by
  induction asked with
  | nil => exact here
  | draw k asked ih => exact ih
  | create k uses b asked fresh uses_here ih => exact mem_objects_create.2 (.inr ih)

/-- What is there has been there before, or has the next name of its kind. -/
theorem Asked.mem_objects (asked : Asked name log ks rs) {id : ι} (here : id ∈ objects (rs ++ log)) :
    id ∈ objects log ∨ ∃ k ∈ ks, id = name k := by
  induction asked with
  | nil => exact .inl here
  | draw k asked ih =>
    rcases ih here with old | ⟨k', mem, same⟩
    · exact .inl old
    · exact .inr ⟨k', List.mem_cons_of_mem _ mem, same⟩
  | create k uses b asked fresh uses_here ih =>
    rcases mem_objects_create.1 here with ⟨-, new⟩ | old
    · exact .inr ⟨k, List.mem_cons_self, List.mem_singleton.1 new⟩
    · rcases ih old with old | ⟨k', mem, same⟩
      · exact .inl old
      · exact .inr ⟨k', List.mem_cons_of_mem _ mem, same⟩

/-- What has been confirmed is there. -/
theorem Asked.confirmed (asked : Asked name log ks rs) {ids uses : List ι}
    (mem : (.create ids uses, true) ∈ rs) : ∀ id ∈ ids, id ∈ objects (rs ++ log) := by
  induction asked with
  | nil => cases mem
  | draw k asked ih => exact ih mem
  | create k uses' b asked fresh uses_here ih =>
    intro id new
    rcases List.mem_cons.1 mem with e | mem
    · simp only [Prod.mk.injEq, Request.create.injEq] at e
      obtain ⟨⟨rfl, -⟩, rfl⟩ := e
      exact mem_objects_create.2 (.inl ⟨rfl, new⟩)
    · exact mem_objects_create.2 (.inr (ih mem id new))

/-- **The numbering rule.** Names drawn upwards are new. -/
theorem Asked.legal (asked : Asked name log ks rs) (kinds : ∀ k, kind (name k) = k)
    (numbers : ∀ k, number (name k) = n k) (legal : Legal log)
    (below : Below kind number n (objects log)) : Legal (rs ++ log) := by
  induction asked with
  | nil => exact legal
  | draw k asked ih => exact ih
  | create k uses b asked fresh uses_here ih =>
    refine ⟨⟨List.nodup_singleton _, fun id new used => ?_, uses_here⟩, ih⟩
    obtain rfl := List.mem_singleton.1 new
    rcases asked.mem_objects used with old | ⟨k', mem, same⟩
    · have lower := below _ old
      rw [numbers, kinds] at lower
      omega
    · have same := congrArg kind same
      rw [kinds, kinds] at same
      exact fresh (same ▸ mem)

/-- The counters stay ahead. -/
theorem Asked.stays_below (asked : Asked name log ks rs) (kinds : ∀ k, kind (name k) = k)
    (numbers : ∀ k, number (name k) = n k) (below : Below kind number n (objects log))
    (up : ∀ k, n k ≤ m k) (drawn : ∀ k ∈ ks, n k < m k) :
    Below kind number m (objects (rs ++ log)) := by
  intro id here
  rcases asked.mem_objects here with old | ⟨k, mem, rfl⟩
  · exact Nat.lt_of_lt_of_le (below id old) (up _)
  · rw [numbers, kinds]
    exact drawn k mem

end Asked

end Numbers

end Registry
