import RmwMicroxrcedds.Spec.ConcurrentPools

/-!
# Who has the items

Threads that share a pool may hand items on to each other; what they must not do is put back an item that
nobody has. Then an item is always in one place only: it is free, a caller has it, a `get_memory` is about to
give it to its caller, or a `put_memory` is about to make it free.
-/

namespace RmwMicroxrcedds.Concurrent
set_option autoImplicit false
open Threads Threads.Code Discipline

variable {α δ ι Tid : Type} [DecidableEq α] [DecidableEq ι] [DecidableEq Tid]

abbrev PoolEvent (Tid ι α δ : Type) := Event Tid (ι × PoolOp α δ) (PoolResult α)

abbrev PoolSystem (Tid ι α δ : Type) := System Tid ι (ι × PoolOp α δ) (Mempool α δ) (PoolResult α)

/-- The items of a pool that `get_memory` has given to callers and that have not been put back since. -/
def handed (pool : ι) : List (PoolEvent Tid ι α δ) → List α
  | [] => []
  | .returned _ _ (p, _) (.got (some item)) _ :: older =>
    if p = pool then item :: handed pool older else handed pool older
  | .called _ _ (p, .put item) :: older =>
    if p = pool then (handed pool older).erase item else handed pool older
  | _ :: older => handed pool older

/-- The item that a call puts back. -/
def put? (pool : ι) : PoolEvent Tid ι α δ → Option α
  | .called _ _ (p, .put item) => if p = pool then some item else none
  | _ => none

/-- Items are put back by those who have them. -/
def PutsHanded (pool : ι) : List (PoolEvent Tid ι α δ) → Prop
  | [] => True
  | e :: older => (∀ item ∈ put? pool e, item ∈ handed pool older) ∧ PutsHanded pool older

instance PutsHanded.decidable (pool : ι) :
    ∀ events : List (PoolEvent Tid ι α δ), Decidable (PutsHanded pool events)
  | [] => .isTrue trivial
  | e :: older =>
    have : Decidable (PutsHanded pool older) := PutsHanded.decidable pool older
    inferInstanceAs (Decidable ((∀ item ∈ put? pool e, item ∈ handed pool older) ∧ PutsHanded pool older))

/-- The item that a call under way has: one that is to become free, or one that is to be given to the caller. -/
inductive Has (init : Mempool α δ) (pool : ι) (events : List (PoolEvent Tid ι α δ)) :
    Nat × ι × PoolOp α δ → α → Prop
  | putting {n item} (new : ∀ t op, .entered n t op ∉ events) : Has init pool events (n, pool, .put item) item
  | getting {n allocations item} (after before : List (Nat × ι × PoolOp α δ))
      (order : entries (program false) pool events = after ++ (n, pool, .get allocations) :: before)
      (got : ((replay (pools false) init before).getMemory []).1 = some item) :
      Has init pool events (n, pool, .get allocations) item

/-- The call that a thread is at. -/
def atCall (s : PoolSystem Tid ι α δ) (t : Tid) : Option (Nat × ι × PoolOp α δ) :=
  (s.running t).map fun r => (r.number, r.op)

variable {pool : ι} {array : Nat → δ} {mem : Nat → α} {size : Nat} {init : Mempool α δ}

/-- The items that are not free are with callers and calls, each with one. -/
structure Custody (array : Nat → δ) (mem : Nat → α) (size : Nat) (init : Mempool α δ) (pool : ι)
    (events : List (PoolEvent Tid ι α δ)) (calls : Tid → Option (Nat × ι × PoolOp α δ)) (as fs : List α) :
    Prop where
  inv : Inv array mem size (replay (pools false) init (entries (program false) pool events)) as fs
  taken : ∀ item ∈ handed pool events, item ∈ as
  apart : (handed pool events).Nodup
  held : ∀ t call item, calls t = some call → Has init pool events call item →
    item ∈ as ∧ item ∉ handed pool events
  single : ∀ t u call call' item, calls t = some call → Has init pool events call item →
    calls u = some call' → Has init pool events call' item → t = u

section Steps

variable {events : List (PoolEvent Tid ι α δ)} {calls calls' : Tid → Option (Nat × ι × PoolOp α δ)}
  {as fs : List α} {n : Nat} {t : Tid} {op : ι × PoolOp α δ}

omit [DecidableEq Tid] in
/-- Another call's event makes no difference to what a call has. -/
theorem has_cons {e : PoolEvent Tid ι α δ} {call : Nat × ι × PoolOp α δ} {item : α}
    (aside : ∀ t op, e ≠ .entered call.1 t op) :
    Has init pool (e :: events) call item ↔ Has init pool events call item := by
  constructor
  · intro h
    cases h with
    | putting new => exact .putting fun t op mem => new t op (List.mem_cons_of_mem _ mem)
    | @getting n allocations _ after before order got =>
      cases e with
      | called => exact .getting after before order got
      | returned => exact .getting after before order got
      | entered n' t op =>
        by_cases here : op.1 = pool
        · have split : entries (program false) pool (.entered n' t op :: events) =
              (n', op) :: entries (program false) pool events := List.filterMap_cons_some (if_pos here)
          rw [split] at order
          cases after with
          | nil =>
            obtain ⟨rfl, rfl⟩ := Prod.mk.inj (List.cons.inj order).1
            exact absurd rfl (aside t _)
          | cons first after => exact .getting after before (List.cons.inj order).2 got
        · have same : entries (program false) pool (.entered n' t op :: events) =
              entries (program false) pool events := List.filterMap_cons_none (if_neg here)
          rw [same] at order
          exact .getting after before order got
  · intro h
    cases h with
    | putting new =>
      refine .putting fun t op mem => ?_
      rcases List.mem_cons.1 mem with rfl | old
      · exact aside t op rfl
      · exact new t op old
    | @getting n allocations _ after before order got =>
      cases e with
      | called => exact .getting after before order got
      | returned => exact .getting after before order got
      | entered n' t op =>
        by_cases here : op.1 = pool
        · have split : entries (program false) pool (.entered n' t op :: events) =
              (n', op) :: entries (program false) pool events := List.filterMap_cons_some (if_pos here)
          refine .getting ((n', op) :: after) before ?_ got
          rw [split, order]
          rfl
        · have same : entries (program false) pool (.entered n' t op :: events) =
              entries (program false) pool events := List.filterMap_cons_none (if_neg here)
          exact .getting after before (same.trans order) got

omit [DecidableEq Tid] in
/-- A call that has not entered has an item only if it puts one. -/
theorem Has.of_new {item : α} (h : Has init pool events (n, op) item) (new : ∀ t op, .entered n t op ∉ events) :
    op = (pool, .put item) := by
  cases h with
  | putting => rfl
  | @getting _ allocations _ after before order =>
    have mem : (n, pool, .get allocations) ∈ entries (program false) pool events := by
      rw [order]
      exact List.mem_append_right _ List.mem_cons_self
    obtain ⟨-, t, entered⟩ := mem_entries.1 mem
    exact absurd entered (new t _)

omit [DecidableEq Tid] in
theorem handed_called (aside : ∀ item, op ≠ (pool, .put item)) :
    handed pool (.called n t op :: events) = handed pool events := by
  obtain ⟨p, op⟩ := op
  cases op with
  | has => rfl
  | get => rfl
  | put item =>
    apply if_neg
    rintro rfl
    exact aside item rfl

omit [DecidableEq Tid] in
theorem handed_returned {a : PoolResult α} {held : Nat} (aside : ∀ item, op.1 = pool → a ≠ .got (some item)) :
    handed pool (.returned n t op a held :: events) = handed pool events := by
  obtain ⟨p, op⟩ := op
  cases a with
  | has => rfl
  | put => rfl
  | got item =>
    cases item with
    | none => rfl
    | some item =>
      apply if_neg
      rintro rfl
      exact aside item rfl rfl

/-- A thread calls. -/
theorem Custody.call (c : Custody array mem size init pool events calls as fs)
    (puts : ∀ item, op = (pool, .put item) → item ∈ handed pool events)
    (new : ∀ t op, .entered n t op ∉ events) :
    Custody array mem size init pool (.called n t op :: events)
      (Function.update calls t (some (n, op))) as fs := by
  have same : ∀ call item, Has init pool (.called n t op :: events) call item ↔ Has init pool events call item :=
    fun call item => has_cons fun _ _ e => by cases e
  -- what has been handed and is not about to be put, and what is
  have handed' : (handed pool (.called n t op :: events)).Sublist (handed pool events) ∧
      ∀ item, op = (pool, .put item) → item ∉ handed pool (.called n t op :: events) := by
    by_cases putting : ∃ item, op = (pool, .put item)
    · obtain ⟨item, rfl⟩ := putting
      have erased : handed pool (.called n t (pool, .put item) :: events) =
          (handed pool events).erase item := if_pos rfl
      rw [erased]
      refine ⟨List.erase_sublist, fun item' e => ?_⟩
      cases e
      exact c.apart.not_mem_erase
    · rw [handed_called fun item e => putting ⟨item, e⟩]
      exact ⟨.refl _, fun item e => absurd ⟨item, e⟩ putting⟩
  obtain ⟨fewer, gone⟩ := handed'
  constructor
  · exact c.inv
  · exact fun item mem => c.taken item (fewer.subset mem)
  · exact c.apart.sublist fewer
  · intro u call item at_ has
    rw [same] at has
    rcases update_some at_ with ⟨rfl, e⟩ | ⟨-, old⟩
    · obtain rfl := Option.some.inj e
      have putting := has.of_new new
      exact ⟨c.taken item (puts item putting), gone item putting⟩
    · obtain ⟨there, away⟩ := c.held u call item old has
      exact ⟨there, fun mem => away (fewer.subset mem)⟩
  · intro u v call call' item at_ has at_' has'
    rw [same] at has has'
    rcases update_some at_ with ⟨rfl, e⟩ | ⟨-, old⟩
    · rcases update_some at_' with ⟨rfl, -⟩ | ⟨-, old'⟩
      · rfl
      · obtain rfl := Option.some.inj e
        exact absurd (puts item (has.of_new new)) (c.held v call' item old' has').2
    · rcases update_some at_' with ⟨rfl, e⟩ | ⟨-, old'⟩
      · obtain rfl := Option.some.inj e
        exact absurd (puts item (has'.of_new new)) (c.held u call item old has).2
      · exact c.single u v call call' item old has old' has'

/-- A call returns. -/
theorem Custody.ret (c : Custody array mem size init pool events calls as fs) {a : PoolResult α} {held : Nat}
    (at_ : calls t = some (n, op))
    (gives : Gives (pools false) init (entries (program false) pool events) (n, op) a held ∨ op.1 ≠ pool) :
    Custody array mem size init pool (.returned n t op a held :: events) (Function.update calls t none)
      as fs := by
  have same : ∀ call item, Has init pool (.returned n t op a held :: events) call item ↔
      Has init pool events call item := fun call item => has_cons fun _ _ e => by cases e
  -- an item that is given to the caller was with the call
  have given : ∀ item, op.1 = pool → a = .got (some item) → Has init pool events (n, op) item := by
    rintro item rfl rfl
    obtain ⟨after, before, order, result, -⟩ := gives.resolve_right fun ne => ne rfl
    obtain ⟨p, op⟩ := op
    cases op with
    | has => cases result
    | put => cases result
    | get allocations => exact .getting after before order (PoolResult.got.inj result).symm
  have more : ∀ item, item ∈ handed pool (.returned n t op a held :: events) →
      item ∈ handed pool events ∨ Has init pool events (n, op) item := by
    intro item mem
    by_cases gets : ∃ item, op.1 = pool ∧ a = .got (some item)
    · obtain ⟨item', rfl, rfl⟩ := gets
      have grown : handed op.1 (.returned n t op (.got (some item')) held :: events) =
          item' :: handed op.1 events := if_pos rfl
      rw [grown] at mem
      rcases List.mem_cons.1 mem with rfl | old
      · exact .inr (given item rfl rfl)
      · exact .inl old
    · rw [handed_returned fun item on e => gets ⟨item, on, e⟩] at mem
      exact .inl mem
  constructor
  · exact c.inv
  · intro item mem
    rcases more item mem with old | has
    · exact c.taken item old
    · exact (c.held t (n, op) item at_ has).1
  · by_cases gets : ∃ item, op.1 = pool ∧ a = .got (some item)
    · obtain ⟨item, rfl, rfl⟩ := gets
      have grown : handed op.1 (.returned n t op (.got (some item)) held :: events) =
          item :: handed op.1 events := if_pos rfl
      rw [grown, List.nodup_cons]
      exact ⟨(c.held t (n, op) item at_ (given item rfl rfl)).2, c.apart⟩
    · rw [handed_returned fun item on e => gets ⟨item, on, e⟩]
      exact c.apart
  · intro u call item at_' has
    rw [same] at has
    rcases update_some at_' with ⟨-, e⟩ | ⟨ne, old⟩
    · cases e
    · refine ⟨(c.held u call item old has).1, fun mem => ?_⟩
      rcases more item mem with there | mine
      · exact (c.held u call item old has).2 there
      · exact ne (c.single u t call (n, op) item old has at_ mine)
  · intro u v call call' item at_' has at_'' has'
    rw [same] at has has'
    rcases update_some at_' with ⟨-, e⟩ | ⟨-, old⟩
    · cases e
    · rcases update_some at_'' with ⟨-, e⟩ | ⟨-, old'⟩
      · cases e
      · exact c.single u v call call' item old has old' has'

/-- A call enters: its item, if it has one, has moved, and no other item. -/
theorem Custody.entered (c : Custody array mem size init pool events calls as fs) (at_ : calls t = some (n, op))
    (numbers : ∀ u call, calls u = some call → call.1 = n → u = t) {as' fs' : List α}
    (inv : Inv array mem size
      (replay (pools false) init (entries (program false) pool (.entered n t op :: events))) as' fs')
    (kept : ∀ item ∈ as, item ∈ as' ∨ Has init pool events (n, op) item)
    (mine : ∀ item, Has init pool (.entered n t op :: events) (n, op) item → item ∈ as' ∧ item ∉ as) :
    Custody array mem size init pool (.entered n t op :: events) calls as' fs' := by
  have others : ∀ u call item, calls u = some call → u ≠ t →
      (Has init pool (.entered n t op :: events) call item ↔ Has init pool events call item) :=
    fun u call item at_' ne => has_cons fun _ _ e => ne (numbers u call at_' (Event.entered.inj e).1.symm)
  constructor
  · exact inv
  · intro item mem
    exact (kept item (c.taken item mem)).resolve_right fun has => (c.held t (n, op) item at_ has).2 mem
  · exact c.apart
  · intro u call item at_' has
    by_cases e : u = t
    · subst e
      obtain rfl := Option.some.inj (at_.symm.trans at_')
      obtain ⟨there, away⟩ := mine item has
      exact ⟨there, fun mem => away (c.taken item mem)⟩
    · rw [others u call item at_' e] at has
      obtain ⟨there, away⟩ := c.held u call item at_' has
      refine ⟨(kept item there).resolve_right fun own => e ?_, away⟩
      exact c.single u t call (n, op) item at_' has at_ own
  · intro u v call call' item at_' has at_'' has'
    by_cases e : u = t
    · by_cases e' : v = t
      · exact e.trans e'.symm
      · subst e
        obtain rfl := Option.some.inj (at_.symm.trans at_')
        rw [others v call' item at_'' e'] at has'
        exact absurd (c.held v call' item at_'' has').1 (mine item has).2
    · rw [others u call item at_' e] at has
      by_cases e' : v = t
      · subst e'
        obtain rfl := Option.some.inj (at_.symm.trans at_'')
        exact absurd (c.held u call item at_' has).1 (mine item has').2
      · rw [others v call' item at_'' e'] at has'
        exact c.single u v call call' item at_' has at_'' has'

theorem Custody.enter (c : Custody array mem size init pool events calls as fs) (at_ : calls t = some (n, op))
    (new : ∀ t op, .entered n t op ∉ events)
    (numbers : ∀ u call, calls u = some call → call.1 = n → u = t) :
    ∃ as' fs', Custody array mem size init pool (.entered n t op :: events) calls as' fs' := by
  obtain ⟨p, op⟩ := op
  by_cases here : p = pool
  · subst here
    have split : entries (program false) p (.entered n t (p, op) :: events) =
        (n, p, op) :: entries (program false) p events := List.filterMap_cons_some (if_pos rfl)
    -- the only entry of the call is the last one
    have last : ∀ after before op', entries (program false) p (.entered n t (p, op) :: events) =
        after ++ (n, p, op') :: before → op' = op ∧ before = entries (program false) p events := by
      intro after before op' order
      rw [split] at order
      cases after with
      | nil =>
        obtain ⟨e, rfl⟩ := List.cons.inj order
        cases e
        exact ⟨rfl, rfl⟩
      | cons first after =>
        have mem : (n, p, op') ∈ entries (program false) p events := by
          rw [(List.cons.inj order).2]
          exact List.mem_append_right _ List.mem_cons_self
        obtain ⟨-, u, entered⟩ := mem_entries.1 mem
        exact absurd entered (new u _)
    have inv := c.inv
    cases op with
    | has =>
      refine ⟨as, fs, c.entered at_ numbers ?_ (fun item mem => .inl mem) fun item has => ?_⟩
      · rw [split]
        exact inv
      · cases has
    | get allocations =>
      cases fs with
      | nil =>
        have none : (replay (pools false) init (entries (program false) p events)).getMemory [] =
            (none, replay (pools false) init (entries (program false) p events)) := inv.repr.getMemory_none
        refine ⟨as, [], c.entered at_ numbers ?_ (fun item mem => .inl mem) fun item has => ?_⟩
        · rw [split]
          show Inv array mem size (Mempool.getMemory _ []).2 as []
          rw [none]
          exact inv
        · cases has with
          | getting after before order got =>
            obtain ⟨-, rfl⟩ := last after before _ order
            rw [none] at got
            cases got
      | cons item fs =>
        have get : (replay (pools false) init (entries (program false) p events)).getMemory [] =
            (some item, _) := inv.repr.getMemory_some []
        refine ⟨item :: as, fs, c.entered at_ numbers ?_ (fun item mem => .inl (List.mem_cons_of_mem _ mem))
          fun item' has => ?_⟩
        · rw [split]
          exact inv.get_some.2
        · cases has with
          | getting after before order got =>
            obtain ⟨-, rfl⟩ := last after before _ order
            rw [get] at got
            obtain rfl := Option.some.inj got
            exact ⟨List.mem_cons_self, fun held => inv.repr.disjoint held List.mem_cons_self⟩
    | put item =>
      have own : Has init p events (n, p, .put item) item := .putting new
      obtain ⟨l, r, rfl⟩ := List.append_of_mem (c.held t _ item at_ own).1
      refine ⟨l ++ r, item :: fs, c.entered at_ numbers ?_ (fun item' mem => ?_) fun item' has => ?_⟩
      · rw [split]
        show Inv array mem size (put false _ item) _ _
        rw [put_eq (.inr (inv.static item))]
        exact inv.put.2
      · rw [List.mem_append, List.mem_cons] at mem
        rcases mem with left | rfl | right
        · exact .inl (List.mem_append_left _ left)
        · exact .inr own
        · exact .inl (List.mem_append_right _ right)
      · cases has with
        | putting new' => exact absurd List.mem_cons_self (new' t _)
  · have same : entries (program false) pool (.entered n t (p, op) :: events) =
        entries (program false) pool events := List.filterMap_cons_none (if_neg here)
    refine ⟨as, fs, c.entered at_ numbers ?_ (fun item mem => .inl mem) fun item has => ?_⟩
    · rw [same]
      exact c.inv
    · cases has with
      | putting => exact absurd rfl here
      | getting => exact absurd rfl here

end Steps

/-! ## Runs -/

omit [DecidableEq α] [DecidableEq ι] in
theorem atCall_update {s s' : PoolSystem Tid ι α δ} {t : Tid}
    {x : Option (Running (ι × PoolOp α δ) (Mempool α δ) (PoolResult α))}
    (running : s'.running = Function.update s.running t x) :
    atCall s' = Function.update (atCall s) t (x.map fun r => (r.number, r.op)) := by
  funext u
  rw [atCall, running]
  by_cases e : u = t
  · rw [e, Function.update_self, Function.update_self]
  · rw [Function.update_of_ne e, Function.update_of_ne e, atCall]

omit [DecidableEq α] [DecidableEq ι] in
/-- A thread that stays at its call. -/
theorem atCall_same {s s' : PoolSystem Tid ι α δ} {t : Tid} {n held held' : Nat} {op : ι × PoolOp α δ}
    {code code' : Code (Mempool α δ) (PoolResult α)} (at_ : s.running t = some ⟨n, op, held, code⟩)
    (running : s'.running = Function.update s.running t (some ⟨n, op, held', code'⟩)) :
    atCall s' = atCall s := by
  have here : atCall s t = some (n, op) := by rw [atCall, at_, Option.map_some]
  rw [atCall_update running, Option.map_some, ← here, Function.update_eq_self]

theorem Custody.step {s : PoolSystem Tid ι α δ} {inits : ι → Mempool α δ}
    (h : Threads.Inv (false = true) (program false) inits s) {as fs : List α}
    (c : Custody array mem size (inits pool) pool s.events (atCall s) as fs) (i : Tid × ι × PoolOp α δ)
    (puts : PutsHanded pool (Threads.step (program false) s i).events) :
    ∃ as' fs', Custody array mem size (inits pool) pool (Threads.step (program false) s i).events
      (atCall (Threads.step (program false) s i)) as' fs' := by
  obtain ⟨t, op⟩ := i
  have moves := step_moves (program false) s t op
  generalize Threads.step (program false) s (t, op) = s' at moves puts ⊢
  have stays : ∀ {n op' held code held' code'}, s.running t = some ⟨n, op', held, code⟩ →
      s'.events = s.events → s'.running = Function.update s.running t (some ⟨n, op', held', code'⟩) →
      ∃ as' fs', Custody array mem size (inits pool) pool s'.events (atCall s') as' fs' :=
    fun at_ events running => ⟨as, fs, by rw [events, atCall_same at_ running]; exact c⟩
  cases moves with
  | call idle =>
    refine ⟨as, fs, ?_⟩
    rw [atCall_update rfl]
    apply c.call
    · rintro item rfl
      exact puts.1 item (if_pos rfl)
    · exact fun u o mem => Nat.lt_irrefl _ (h.numbered _ mem)
  | @ret n op' held a at_ =>
    refine ⟨as, fs, ?_⟩
    rw [atCall_update rfl]
    apply c.ret (by rw [atCall, at_, Option.map_some])
    have next := h.ret at_ (program_guarded false)
    have gives := next.results n t op' a held List.mem_cons_self
    rw [program_object] at gives
    by_cases on : op'.1 = pool
    · subst on
      exact .inl gives
    · exact .inr on
  | @enter n op' rest at_ free =>
    obtain ⟨-, new, -⟩ := h.entering at_ free
    rw [atCall_same at_ rfl]
    apply c.enter (by rw [atCall, at_, Option.map_some]) new
    intro u call at_' number
    obtain ⟨r, there, rfl⟩ := Option.map_eq_some_iff.1 at_'
    exact h.apart u t r _ there at_ number
  | again at_ => exact stays at_ rfl rfl
  | wait => exact ⟨as, fs, c⟩
  | unlock at_ => exact stays at_ rfl rfl
  | access at_ => exact stays at_ rfl rfl

omit [DecidableEq Tid] in
theorem PutsHanded.older {older newer : List (PoolEvent Tid ι α δ)} (h : PutsHanded pool (newer ++ older)) :
    PutsHanded pool older := by
  induction newer with
  | nil => exact h
  | cons e newer ih => exact ih h.2

/-- **Items are handed to one caller at a time.** A static pool of any size is shared by any number of threads in
a build without dynamic allocation. If they put back only what they have been given, then whatever the schedule is,
the items that have been given out are different elements of the array; and while no call is inside, the pool is
partitioned into its two lists, and those items are in the allocated one. -/
theorem items_apart (pos : 0 < size) (inj : Function.Injective mem) (inits : ι → Mempool α δ)
    (start : inits pool = Mempool.zero.init array mem size) (is : List (Tid × ι × PoolOp α δ))
    (puts : PutsHanded pool (Runs.exec (Threads.step (program false)) (.start inits) is).events) :
    let s := Runs.exec (Threads.step (program false)) (.start inits) is
    (handed pool s.events).Nodup ∧ (∀ item ∈ handed pool s.events, ∃ i < size, item = mem i) ∧
      (s.Quiet (program false) pool → Partitioned array mem size (s.memory pool) ∧
        ∀ item ∈ handed pool s.events, item ∈ (s.memory pool).allocated) := by
  have custody : ∀ is : List (Tid × ι × PoolOp α δ),
      PutsHanded pool (Runs.exec (Threads.step (program false)) (.start inits) is).events →
      ∃ as fs, Custody array mem size (inits pool) pool
        (Runs.exec (Threads.step (program false)) (.start inits) is).events
        (atCall (Runs.exec (Threads.step (program false)) (.start inits) is)) as fs := by
    intro is puts
    induction is using List.reverseRecOn with
    | nil =>
      refine ⟨[], (List.range size).reverse.map mem, ?_, ?_, List.nodup_nil, ?_, ?_⟩
      · show Inv array mem size (inits pool) _ _
        rw [start]
        exact initial_inv pos inj
      · exact fun item mem => absurd mem List.not_mem_nil
      · exact fun t call item at_ => by cases at_
      · exact fun t u call call' item at_ => by cases at_
    | append_singleton is i ih =>
      have h : Threads.Inv (false = true) (program false) inits
          (Runs.exec (Threads.step (program false)) (.start inits) is) := inv_exec (program_guarded false) is
      rw [Runs.exec_append] at puts ⊢
      obtain ⟨newer, events⟩ := step_events (p := program false)
        (Runs.exec (Threads.step (program false)) (.start inits) is) i
      have before : PutsHanded pool (Runs.exec (Threads.step (program false)) (.start inits) is).events := by
        apply PutsHanded.older
        rw [← events]
        exact puts
      obtain ⟨as, fs, c⟩ := ih before
      exact c.step h i puts
  intro s
  have h : Threads.Inv (false = true) (program false) inits s := inv_exec (program_guarded false) is
  obtain ⟨as, fs, c⟩ := custody is puts
  refine ⟨c.apart, fun item mem => ?_, fun quiet => ?_⟩
  · exact (c.inv.mem_iff item).1 (.inl (c.taken item mem))
  · have memory := h.settled pool quiet
    rw [program_object] at memory
    rw [memory]
    refine ⟨c.inv.partitioned, fun item mem => ?_⟩
    rw [c.inv.repr.allocated_eq]
    exact c.taken item mem

/-- Two threads get the two items; then one of them puts its item back while the other asks for more. -/
def overlap : List (Bool × Unit × PoolOp Nat Nat) := (List.range 66).map fun i =>
  (i % 2 == 0, (), if i < 20 then .get [] else if i % 2 == 0 then .put 1 else .has)

theorem items_apart_overlap :
    handed () (Runs.exec (Threads.step (program false)) (.start twoItems) overlap).events = [0] ∧
      ∀ item ∈ handed () (Runs.exec (Threads.step (program false)) (.start twoItems) overlap).events,
        ∃ i < 2, item = id i := by
  constructor
  · decide +kernel
  · apply (items_apart (by decide) Function.injective_id twoItems rfl overlap _).2.1
    decide +kernel

end RmwMicroxrcedds.Concurrent
