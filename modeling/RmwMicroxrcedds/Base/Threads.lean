import Mathlib.Data.List.Nodup
import Mathlib.Logic.Function.Basic
import RmwMicroxrcedds.Base.Runs

/-!
# Threads under recursive mutexes

Threads call operations on shared memories. An operation is code that takes the recursive mutex of one memory,
reads and writes this memory access by access, and gives the mutex back. A scheduler lets the threads move one
at a time, in any order.

* `Inv` says where a thread can be in its operation and what this means for the memory.
* `linearizable`: the calls on a memory act like calls one after another, in the order in which they took the
  mutex, and this order respects real time.
-/

namespace Threads
set_option autoImplicit false

variable {σ α β M Op Tid : Type}

/-! ## Code -/

/-- The code of an operation. What comes after an access may depend on what the access has read. -/
inductive Code (σ α : Type) where
  | done (a : α)
  | lock (rest : Code σ α)
  | unlock (rest : Code σ α)
  | access (effect : σ → σ) (rest : σ → Code σ α)

namespace Code

def bind : Code σ α → (α → Code σ β) → Code σ β
  | done a, f => f a
  | lock rest, f => lock (rest.bind f)
  | unlock rest, f => unlock (rest.bind f)
  | access effect rest, f => access effect fun s => (rest s).bind f

instance : Monad (Code σ) where
  pure := done
  bind := bind

def takeMutex : Code σ Unit := lock (done ())

def giveMutex : Code σ Unit := unlock (done ())

/-- A read. -/
def fetch (f : σ → β) : Code σ β := access id fun s => done (f s)

/-- A write. -/
def store (f : σ → σ) : Code σ Unit := access f fun _ => done ()

/-- What the code does while nobody else moves. -/
def alone : Code σ α → σ → α × σ
  | done a, s => (a, s)
  | lock rest, s => rest.alone s
  | unlock rest, s => rest.alone s
  | access effect rest, s => (rest s).alone (effect s)

/-- How often it then holds the mutex, if it holds it so often at first. -/
def kept : Code σ α → Nat → σ → Nat
  | done _, held, _ => held
  | lock rest, held, s => rest.kept (held + 1) s
  | unlock rest, held, s => rest.kept (held - 1) s
  | access effect rest, held, s => (rest s).kept held (effect s)

section Alone

variable (s : σ)

@[simp] theorem alone_pure (a : α) : (pure a : Code σ α).alone s = (a, s) := rfl

@[simp] theorem alone_bind (c : Code σ α) (f : α → Code σ β) :
    (c >>= f).alone s = (f (c.alone s).1).alone (c.alone s).2 := by
  show (c.bind f).alone s = _
  induction c generalizing s with
  | done a => rfl
  | lock rest ih => exact ih s
  | unlock rest ih => exact ih s
  | access effect rest ih => exact ih s (effect s)

@[simp] theorem alone_takeMutex : (takeMutex : Code σ Unit).alone s = ((), s) := rfl

@[simp] theorem alone_giveMutex : (giveMutex : Code σ Unit).alone s = ((), s) := rfl

@[simp] theorem alone_fetch (f : σ → β) : (fetch f).alone s = (f s, s) := rfl

@[simp] theorem alone_store (f : σ → σ) : (store f).alone s = ((), f s) := rfl

variable (held : Nat)

@[simp] theorem kept_pure (a : α) : (pure a : Code σ α).kept held s = held := rfl

@[simp] theorem kept_bind (c : Code σ α) (f : α → Code σ β) :
    (c >>= f).kept held s = (f (c.alone s).1).kept (c.kept held s) (c.alone s).2 := by
  show (c.bind f).kept held s = _
  induction c generalizing s held with
  | done a => rfl
  | lock rest ih => exact ih s (held + 1)
  | unlock rest ih => exact ih s (held - 1)
  | access effect rest ih => exact ih s (effect s) held

@[simp] theorem kept_takeMutex : (takeMutex : Code σ Unit).kept held s = held + 1 := rfl

@[simp] theorem kept_giveMutex : (giveMutex : Code σ Unit).kept held s = held - 1 := rfl

@[simp] theorem kept_fetch (f : σ → β) : (fetch f).kept held s = held := rfl

@[simp] theorem kept_store (f : σ → σ) : (store f).kept held s = held := rfl

end Alone

/-- Code that runs under the mutex, with `d` holds besides the first, touches nothing once it has given the
last one back, and returns while it still holds the mutex only if `leaks`. -/
def Inside (leaks : Prop) : Nat → Code σ α → Prop
  | _, done _ => leaks
  | d, lock rest => rest.Inside leaks (d + 1)
  | 0, unlock rest => ∃ a, rest = done a
  | d + 1, unlock rest => rest.Inside leaks d
  | d, access _ rest => ∀ s, (rest s).Inside leaks d

/-- An operation: it takes the mutex first. -/
def Guarded (leaks : Prop) (c : Code σ α) : Prop := ∃ rest, c = lock rest ∧ rest.Inside leaks 0

/-- Code that keeps the mutex, started with `d` holds besides the first, and ends with a number of them that
satisfies `ends`. -/
def Stays (ends : Nat → Prop) : Nat → Code σ α → Prop
  | d, done _ => ends d
  | d, lock rest => rest.Stays ends (d + 1)
  | 0, unlock _ => False
  | d + 1, unlock rest => rest.Stays ends d
  | d, access _ rest => ∀ s, (rest s).Stays ends d

variable {leaks : Prop} {ends ends' : Nat → Prop} {d : Nat} {c : Code σ α} {f : α → Code σ β}

/-- Code under the mutex is followed by code under the mutex. -/
theorem Stays.inside (first : c.Stays ends d) (next : ∀ a d', ends d' → (f a).Inside leaks d') :
    (c >>= f).Inside leaks d := by
  show (c.bind f).Inside leaks d
  induction c generalizing d with
  | done a => exact next a d first
  | lock rest ih => exact ih first
  | unlock rest ih =>
    cases d with
    | zero => exact first.elim
    | succ d => exact ih first
  | access effect rest ih => exact fun s => ih s (first s)

theorem Stays.bind (first : c.Stays ends d) (next : ∀ a d', ends d' → (f a).Stays ends' d') :
    (c >>= f).Stays ends' d := by
  show (c.bind f).Stays ends' d
  induction c generalizing d with
  | done a => exact next a d first
  | lock rest ih => exact ih first
  | unlock rest ih =>
    cases d with
    | zero => exact first.elim
    | succ d => exact ih first
  | access effect rest ih => exact fun s => ih s (first s)

theorem Stays.mono (h : c.Stays ends d) (weaker : ∀ d', ends d' → ends' d') : c.Stays ends' d := by
  induction c generalizing d with
  | done a => exact weaker d h
  | lock rest ih => exact ih h
  | unlock rest ih =>
    cases d with
    | zero => exact h
    | succ d => exact ih h
  | access effect rest ih => exact fun s => ih s (h s)

/-- A result that is only passed on. -/
theorem Inside.map (h : c.Inside leaks d) (g : α → β) : (c >>= fun a => pure (g a)).Inside leaks d := by
  show (c.bind fun a => done (g a)).Inside leaks d
  induction c generalizing d with
  | done a => exact h
  | lock rest ih => exact ih h
  | unlock rest ih =>
    cases d with
    | zero =>
      obtain ⟨a, rfl⟩ := h
      exact ⟨g a, rfl⟩
    | succ d => exact ih h
  | access effect rest ih => exact fun s => ih s (h s)

theorem Guarded.map (h : c.Guarded leaks) (g : α → β) : (c >>= fun a => pure (g a)).Guarded leaks := by
  obtain ⟨rest, rfl, inside⟩ := h
  exact ⟨rest >>= fun a => pure (g a), rfl, inside.map g⟩

/-! ### Critical sections -/

/-- A body between taking the mutex and giving it back. -/
def critical (body : Code σ α) : Code σ α := do
  takeMutex
  let a ← body
  giveMutex
  return a

@[simp] theorem alone_critical (body : Code σ α) (s : σ) : (critical body).alone s = body.alone s := by
  simp only [critical, alone_bind, alone_takeMutex, alone_giveMutex, alone_pure]

/-- Code that is a critical section and holds the mutex afterwards as often as before. -/
def Closed (c : Code σ α) : Prop := ∃ body, c = critical body ∧ ∀ d, body.Stays (· = d) d

theorem Closed.stays (h : c.Closed) : c.Stays (· = d) d := by
  obtain ⟨body, rfl, stays⟩ := h
  show (body >>= fun a => giveMutex >>= fun _ => pure a : Code σ α).Stays _ (d + 1)
  apply (stays (d + 1)).bind
  rintro a _ rfl
  rfl

theorem Closed.guarded (h : c.Closed) : c.Guarded leaks := by
  obtain ⟨body, rfl, stays⟩ := h
  refine ⟨_, rfl, ?_⟩
  apply (stays 0).inside
  rintro a _ rfl
  exact ⟨a, rfl⟩

/-- How often code that stays holds the mutex at its end. -/
theorem Stays.kept_eq (h : c.Stays (· = d) d) (s : σ) : c.kept (d + 1) s = d + 1 := by
  have general : ∀ (c : Code σ α) (held : Nat) (s : σ) (ends : Nat → Prop), c.Stays ends held →
      ∃ d', ends d' ∧ c.kept (held + 1) s = d' + 1 := by
    intro c
    induction c with
    | done a => exact fun held s ends h => ⟨held, h, rfl⟩
    | lock rest ih => exact fun held s ends h => ih (held + 1) s ends h
    | unlock rest ih =>
      intro held s ends h
      cases held with
      | zero => exact h.elim
      | succ held => exact ih held s ends h
    | access effect rest ih => exact fun held s ends h => ih s held (effect s) ends (h s)
  obtain ⟨d', rfl, same⟩ := general c d s _ h
  exact same

theorem Closed.kept_eq (h : c.Closed) (s : σ) : c.kept 0 s = 0 := by
  obtain ⟨body, rfl, stays⟩ := h
  simp only [critical, kept_bind, kept_takeMutex, alone_takeMutex, kept_giveMutex, kept_pure, (stays 0).kept_eq]

/-! ### Parts of a memory -/

section Zoom

variable {τ : Type}

/-- Code on a part of the memory. -/
def zoom (get : τ → σ) (set : σ → τ → τ) : Code σ α → Code τ α
  | done a => done a
  | lock rest => lock (rest.zoom get set)
  | unlock rest => unlock (rest.zoom get set)
  | access effect rest => access (fun t => set (effect (get t)) t) fun t => (rest (get t)).zoom get set

/-- The part is what was written last, and writing it touches nothing else. -/
structure IsPart (get : τ → σ) (set : σ → τ → τ) : Prop where
  get_set : ∀ s t, get (set s t) = s
  set_get : ∀ t, set (get t) t = t
  set_set : ∀ s s' t, set s' (set s t) = set s' t

variable {get : τ → σ} {set : σ → τ → τ}

theorem alone_zoom (part : IsPart get set) (c : Code σ α) (t : τ) :
    (c.zoom get set).alone t = ((c.alone (get t)).1, set (c.alone (get t)).2 t) := by
  induction c generalizing t with
  | done a => exact Prod.ext rfl (part.set_get t).symm
  | lock rest ih => exact ih t
  | unlock rest ih => exact ih t
  | access effect rest ih =>
    have later := ih (get t) (set (effect (get t)) t)
    rw [part.get_set, part.set_set] at later
    exact later

theorem Stays.zoom (h : c.Stays ends d) (get : τ → σ) (set : σ → τ → τ) : (c.zoom get set).Stays ends d := by
  induction c generalizing d with
  | done a => exact h
  | lock rest ih => exact ih h
  | unlock rest ih =>
    cases d with
    | zero => exact h
    | succ d => exact ih h
  | access effect rest ih => exact fun t => ih (get t) (h (get t))

end Zoom

end Code

/-! ## The system -/

/-- The operations: the mutex and the code of each. -/
structure Program (M Op σ α : Type) where
  mutex : Op → M
  code : Op → Code σ α

/-- What calls do one after another: what each gives back, how often it keeps the mutex, and what it makes of the
memory. -/
structure Object (Op σ α : Type) where
  result : Op → σ → α
  held : Op → σ → Nat
  next : Op → σ → σ

/-- The operations when nobody else moves. -/
def Program.object (p : Program M Op σ α) : Object Op σ α where
  result op s := ((p.code op).alone s).1
  held op s := (p.code op).kept 0 s
  next op s := ((p.code op).alone s).2

/-- A call has its number. It enters its operation when it takes the mutex, and returns with a result, while it
holds the mutex so often. -/
inductive Event (Tid Op α : Type) where
  | called (n : Nat) (t : Tid) (op : Op)
  | entered (n : Nat) (t : Tid) (op : Op)
  | returned (n : Nat) (t : Tid) (op : Op) (a : α) (held : Nat)

def Event.number : Event Tid Op α → Nat
  | called n .. | entered n .. | returned n .. => n

/-- A call under way: how often it holds the mutex, and the code that is left. -/
structure Running (Op σ α : Type) where
  number : Nat
  op : Op
  held : Nat
  code : Code σ α

/-- The memory under each mutex, the thread that took it last, and how often it holds it; what each thread is
at, the calls so far, and the events, the newest first. -/
structure System (Tid M Op σ α : Type) where
  memory : M → σ
  holder : M → Option Tid
  times : M → Nat
  running : Tid → Option (Running Op σ α)
  calls : Nat
  events : List (Event Tid Op α)

def System.start (init : M → σ) : System Tid M Op σ α :=
  ⟨init, fun _ => none, fun _ => 0, fun _ => none, 0, []⟩

section Steps

variable [DecidableEq M] [DecidableEq Tid]

/-- The scheduler lets a thread move. A thread without a call makes the one it is given; one that waits for a
mutex stays where it is. -/
def step (p : Program M Op σ α) (s : System Tid M Op σ α) (i : Tid × Op) : System Tid M Op σ α :=
  let (t, op) := i
  match s.running t with
  | none =>
    { s with
      running := Function.update s.running t (some ⟨s.calls, op, 0, p.code op⟩)
      calls := s.calls + 1
      events := .called s.calls t op :: s.events }
  | some r =>
    let m := p.mutex r.op
    match r.code with
    | .done a =>
      { s with
        running := Function.update s.running t none
        events := .returned r.number t r.op a r.held :: s.events }
    | .lock rest =>
      if s.times m = 0 ∨ s.holder m = some t then
        { s with
          holder := Function.update s.holder m (some t)
          times := Function.update s.times m (s.times m + 1)
          running := Function.update s.running t (some { r with held := r.held + 1, code := rest })
          events := if r.held = 0 then .entered r.number t r.op :: s.events else s.events }
      else s
    | .unlock rest =>
      { s with
        times := Function.update s.times m (s.times m - 1)
        running := Function.update s.running t (some { r with held := r.held - 1, code := rest }) }
    | .access effect rest =>
      { s with
        memory := Function.update s.memory m (effect (s.memory m))
        running := Function.update s.running t (some { r with code := rest (s.memory m) }) }

/-- What a move can be. -/
inductive Moves (p : Program M Op σ α) (s : System Tid M Op σ α) (t : Tid) (op : Op) :
    System Tid M Op σ α → Prop
  | call (idle : s.running t = none) : Moves p s t op
      { s with
        running := Function.update s.running t (some ⟨s.calls, op, 0, p.code op⟩)
        calls := s.calls + 1
        events := .called s.calls t op :: s.events }
  | ret {n op' h a} (at_ : s.running t = some ⟨n, op', h, .done a⟩) : Moves p s t op
      { s with
        running := Function.update s.running t none
        events := .returned n t op' a h :: s.events }
  | enter {n op' rest} (at_ : s.running t = some ⟨n, op', 0, .lock rest⟩)
      (free : s.times (p.mutex op') = 0 ∨ s.holder (p.mutex op') = some t) : Moves p s t op
      { s with
        holder := Function.update s.holder (p.mutex op') (some t)
        times := Function.update s.times (p.mutex op') (s.times (p.mutex op') + 1)
        running := Function.update s.running t (some ⟨n, op', 1, rest⟩)
        events := .entered n t op' :: s.events }
  | again {n op' h rest} (at_ : s.running t = some ⟨n, op', h + 1, .lock rest⟩)
      (free : s.times (p.mutex op') = 0 ∨ s.holder (p.mutex op') = some t) : Moves p s t op
      { s with
        holder := Function.update s.holder (p.mutex op') (some t)
        times := Function.update s.times (p.mutex op') (s.times (p.mutex op') + 1)
        running := Function.update s.running t (some ⟨n, op', h + 2, rest⟩) }
  | wait {n op' h rest} (at_ : s.running t = some ⟨n, op', h, .lock rest⟩) (taken : s.times (p.mutex op') ≠ 0)
      (other : s.holder (p.mutex op') ≠ some t) : Moves p s t op s
  | unlock {n op' h rest} (at_ : s.running t = some ⟨n, op', h, .unlock rest⟩) : Moves p s t op
      { s with
        times := Function.update s.times (p.mutex op') (s.times (p.mutex op') - 1)
        running := Function.update s.running t (some ⟨n, op', h - 1, rest⟩) }
  | access {n op' h effect rest} (at_ : s.running t = some ⟨n, op', h, .access effect rest⟩) : Moves p s t op
      { s with
        memory := Function.update s.memory (p.mutex op') (effect (s.memory (p.mutex op')))
        running := Function.update s.running t (some ⟨n, op', h, rest (s.memory (p.mutex op'))⟩) }

theorem step_moves (p : Program M Op σ α) (s : System Tid M Op σ α) (t : Tid) (op : Op) :
    Moves p s t op (step p s (t, op)) := by
  rw [step]
  dsimp only
  cases running : s.running t with
  | none => exact .call running
  | some r =>
    obtain ⟨n, op', h, code⟩ := r
    cases code with
    | done a => exact .ret running
    | lock rest =>
      dsimp only
      split
      · rename_i free
        cases h with
        | zero => exact .enter running free
        | succ h => exact .again running free
      · rename_i blocked
        rw [not_or] at blocked
        exact .wait running blocked.1 blocked.2
    | unlock rest => exact .unlock running
    | access effect rest => exact .access running

variable {p : Program M Op σ α}

/-- What has happened has happened. -/
theorem step_events (s : System Tid M Op σ α) (i : Tid × Op) : ∃ newer, (step p s i).events = newer ++ s.events := by
  obtain ⟨t, op⟩ := i
  have moves := step_moves p s t op
  generalize step p s (t, op) = s' at moves ⊢
  cases moves with
  | call => exact ⟨[_], rfl⟩
  | ret => exact ⟨[_], rfl⟩
  | enter => exact ⟨[_], rfl⟩
  | again => exact ⟨[], rfl⟩
  | wait => exact ⟨[], rfl⟩
  | unlock => exact ⟨[], rfl⟩
  | access => exact ⟨[], rfl⟩

theorem exec_events (s : System Tid M Op σ α) (is : List (Tid × Op)) :
    ∃ newer, (Runs.exec (step p) s is).events = newer ++ s.events := by
  induction is generalizing s with
  | nil => exact ⟨[], rfl⟩
  | cons i is ih =>
    obtain ⟨one, first⟩ := step_events (p := p) s i
    obtain ⟨more, rest⟩ := ih (step p s i)
    exact ⟨more ++ one, by rw [Runs.exec_cons, rest, first, List.append_assoc]⟩

end Steps

/-! ## Histories -/

/-- The calls that have entered an operation on a memory, the last one first. -/
def entries [DecidableEq M] (p : Program M Op σ α) (m : M) (events : List (Event Tid Op α)) :
    List (Nat × Op) :=
  events.filterMap fun
    | .entered n _ op => if p.mutex op = m then some (n, op) else none
    | _ => none

/-- The memory after these calls, made one after another. -/
def replay (o : Object Op σ α) (s : σ) : List (Nat × Op) → σ
  | [] => s
  | call :: before => o.next call.2 (replay o s before)

/-- The call gives `a` back, and keeps the mutex so often, when the calls are made one after another. -/
def Gives (o : Object Op σ α) (s : σ) (order : List (Nat × Op)) (call : Nat × Op) (a : α) (held : Nat) :
    Prop :=
  ∃ after before, order = after ++ call :: before ∧
    a = o.result call.2 (replay o s before) ∧ held = o.held call.2 (replay o s before)

theorem Gives.later {o : Object Op σ α} {s : σ} {order : List (Nat × Op)} {call : Nat × Op} {a : α}
    {held : Nat} (h : Gives o s order call a held) (next : Nat × Op) :
    Gives o s (next :: order) call a held := by
  obtain ⟨after, before, rfl, e⟩ := h
  exact ⟨next :: after, before, rfl, e⟩

/-- Each event has what it needs before it. -/
def Orderly : List (Event Tid Op α) → Prop
  | [] => True
  | .called n _ _ :: older => Orderly older ∧ ∀ e ∈ older, e.number < n
  | .entered n t op :: older =>
    Orderly older ∧ .called n t op ∈ older ∧ ∀ t op, .entered n t op ∉ older
  | .returned n t op _ _ :: older => Orderly older ∧ .entered n t op ∈ older

/-- The calls on a memory act like calls one after another: the order, the last call first, has calls that have
been made, each once; a call that has returned is among them, and has given back and kept what it gives back
and keeps in this order; and a call made after another one had returned comes after it. -/
structure Linearizes [DecidableEq M] (p : Program M Op σ α) (o : Object Op σ α) (s : σ) (m : M)
    (events : List (Event Tid Op α)) (order : List (Nat × Op)) : Prop where
  made : ∀ call ∈ order, p.mutex call.2 = m ∧ ∃ t, .called call.1 t call.2 ∈ events
  once : (order.map Prod.fst).Nodup
  results : ∀ n t op a held, .returned n t op a held ∈ events → p.mutex op = m →
    Gives o s order (n, op) a held
  realTime : ∀ newer n' t' op' older n t op a held, events = newer ++ .called n' t' op' :: older →
    .returned n t op a held ∈ older → p.mutex op = m → (n', op') ∈ order → [(n', op'), (n, op)].Sublist order

/-- Objects that do the same in the states that the calls can reach. -/
structure Agrees (o o' : Object Op σ α) (ok : σ → Prop) : Prop where
  keeps : ∀ op s, ok s → ok (o'.next op s)
  result : ∀ op s, ok s → o.result op s = o'.result op s
  held : ∀ op s, ok s → o.held op s = o'.held op s
  next : ∀ op s, ok s → o.next op s = o'.next op s

section Agrees

variable {o o' : Object Op σ α} {ok : σ → Prop} {s : σ}

theorem Agrees.replay (h : Agrees o o' ok) (start : ok s) (order : List (Nat × Op)) :
    replay o s order = replay o' s order ∧ ok (replay o' s order) := by
  induction order with
  | nil => exact ⟨rfl, start⟩
  | cons call before ih =>
    obtain ⟨same, sound⟩ := ih
    constructor
    · show o.next call.2 (Threads.replay o s before) = _
      rw [same]
      exact h.next call.2 _ sound
    · exact h.keeps call.2 _ sound

theorem Agrees.gives (h : Agrees o o' ok) (start : ok s) {order : List (Nat × Op)} {call : Nat × Op} {a : α}
    {held : Nat} (given : Gives o s order call a held) : Gives o' s order call a held := by
  obtain ⟨after, before, split, result, keeps⟩ := given
  obtain ⟨same, sound⟩ := h.replay start before
  refine ⟨after, before, split, ?_, ?_⟩
  · rw [result, same]
    exact h.result call.2 _ sound
  · rw [keeps, same]
    exact h.held call.2 _ sound

theorem Agrees.linearizes [DecidableEq M] (h : Agrees o o' ok) (start : ok s) {p : Program M Op σ α} {m : M}
    {events : List (Event Tid Op α)} {order : List (Nat × Op)} (lin : Linearizes p o s m events order) :
    Linearizes p o' s m events order where
  made := lin.made
  once := lin.once
  results n t op a held returned here := h.gives start (lin.results n t op a held returned here)
  realTime := lin.realTime

end Agrees

section Histories

variable [DecidableEq M] {p : Program M Op σ α} {m : M} {older newer : List (Event Tid Op α)}

theorem mem_entries {events : List (Event Tid Op α)} {n : Nat} {op : Op} :
    (n, op) ∈ entries p m events ↔ p.mutex op = m ∧ ∃ t, .entered n t op ∈ events := by
  simp only [entries, List.mem_filterMap]
  constructor
  · rintro ⟨e, mem, h⟩
    cases e with
    | entered n' t op' =>
      obtain ⟨here, e⟩ := Option.ite_none_right_eq_some.1 h
      cases e
      exact ⟨here, t, mem⟩
    | called => cases h
    | returned => cases h
  · rintro ⟨here, t, mem⟩
    exact ⟨_, mem, if_pos here⟩

omit [DecidableEq M] in
theorem Orderly.suffix (h : Orderly (newer ++ older)) : Orderly older := by
  induction newer with
  | nil => exact h
  | cons e newer ih =>
    apply ih
    cases e with
    | called => exact h.1
    | entered => exact h.1
    | returned => exact h.1

omit [DecidableEq M] in
theorem Orderly.of_returned {events : List (Event Tid Op α)} (h : Orderly events) {n held : Nat} {t : Tid}
    {op : Op} {a : α} (mem : .returned n t op a held ∈ events) : .entered n t op ∈ events := by
  obtain ⟨newer, older, rfl⟩ := List.append_of_mem mem
  have own : .entered n t op ∈ older := h.suffix.2
  exact List.mem_append_right _ (List.mem_cons_of_mem _ own)

omit [DecidableEq M] in
theorem Orderly.of_entered {events : List (Event Tid Op α)} (h : Orderly events) {n : Nat} {t : Tid} {op : Op}
    (mem : .entered n t op ∈ events) : .called n t op ∈ events := by
  obtain ⟨newer, older, rfl⟩ := List.append_of_mem mem
  have own : .called n t op ∈ older := h.suffix.2.1
  exact List.mem_append_right _ (List.mem_cons_of_mem _ own)

theorem Orderly.once (h : Orderly newer) : ((entries p m newer).map Prod.fst).Nodup := by
  induction newer with
  | nil => exact List.nodup_nil
  | cons e older ih =>
    cases e with
    | called => exact ih h.1
    | returned => exact ih h.1
    | entered n t op =>
      by_cases here : p.mutex op = m
      · have split : entries p m (.entered n t op :: older) = (n, op) :: entries p m older :=
          List.filterMap_cons_some (if_pos here)
        rw [split, List.map_cons, List.nodup_cons]
        refine ⟨fun mem => ?_, ih h.1⟩
        obtain ⟨⟨n', op'⟩, entry, e⟩ := List.mem_map.1 mem
        obtain rfl : n' = n := e
        obtain ⟨-, t', mem⟩ := mem_entries.1 entry
        exact h.2.2 t' op' mem
      · have same : entries p m (.entered n t op :: older) = entries p m older :=
          List.filterMap_cons_none (if_neg here)
        rw [same]
        exact ih h.1

/-- The order in which the calls enter respects real time. -/
theorem Orderly.realTime {n n' held : Nat} {t t' : Tid} {op op' : Op} {a : α}
    (h : Orderly (newer ++ .called n' t' op' :: older)) (returned : .returned n t op a held ∈ older)
    (here : p.mutex op = m) (later : (n', op') ∈ entries p m (newer ++ .called n' t' op' :: older)) :
    [(n', op'), (n, op)].Sublist (entries p m (newer ++ .called n' t' op' :: older)) := by
  have rest := h.suffix
  have first : (n, op) ∈ entries p m older := mem_entries.2 ⟨here, t, rest.1.of_returned returned⟩
  have second : (n', op') ∈ entries p m newer := by
    obtain ⟨there, u, mem⟩ := mem_entries.1 later
    rcases List.mem_append.1 mem with new | old
    · exact mem_entries.2 ⟨there, u, new⟩
    · rcases List.mem_cons.1 old with e | old
      · cases e
      · exact absurd (rest.2 _ old) (Nat.lt_irrefl n')
  have split : entries p m (newer ++ .called n' t' op' :: older) = entries p m newer ++ entries p m older :=
    List.filterMap_append
  rw [split]
  exact (List.singleton_sublist.2 second).append (List.singleton_sublist.2 first)

end Histories

/-! ## The invariant -/

variable [DecidableEq M]

/-- Where a call under way can be: before it takes the mutex, while it holds it, or after it has given it back.
While it holds it, it is the last that entered, and the code that is left does what is left of the call. -/
inductive Phase (leaks : Prop) (p : Program M Op σ α) (init : M → σ) (s : System Tid M Op σ α) (t : Tid) :
    Running Op σ α → Prop
  | before {n op} (new : ∀ t op, .entered n t op ∉ s.events) (called : .called n t op ∈ s.events) :
      Phase leaks p init s t ⟨n, op, 0, p.code op⟩
  | inside {n op d code earlier} (holder : s.holder (p.mutex op) = some t) (held : d < s.times (p.mutex op))
      (stays : code.Inside leaks d) (last : entries p (p.mutex op) s.events = (n, op) :: earlier)
      (left : code.alone (s.memory (p.mutex op)) =
        (p.code op).alone (replay p.object (init (p.mutex op)) earlier))
      (kept : code.kept (d + 1) (s.memory (p.mutex op)) =
        (p.code op).kept 0 (replay p.object (init (p.mutex op)) earlier))
      (entered : .entered n t op ∈ s.events) : Phase leaks p init s t ⟨n, op, d + 1, code⟩
  | after {n op a} (gives : Gives p.object (init (p.mutex op)) (entries p (p.mutex op) s.events) (n, op) a 0)
      (entered : .entered n t op ∈ s.events) : Phase leaks p init s t ⟨n, op, 0, .done a⟩

/-- No call on a memory is between taking its mutex and giving it back. -/
def System.Quiet (p : Program M Op σ α) (s : System Tid M Op σ α) (m : M) : Prop :=
  ∀ t r, s.running t = some r → p.mutex r.op = m → r.held = 0

structure Inv (leaks : Prop) (p : Program M Op σ α) (init : M → σ) (s : System Tid M Op σ α) : Prop where
  phase : ∀ t r, s.running t = some r → Phase leaks p init s t r
  settled : ∀ m, s.Quiet p m → s.memory m = replay p.object (init m) (entries p m s.events)
  apart : ∀ t t' r r', s.running t = some r → s.running t' = some r' → r.number = r'.number → t = t'
  numbered : ∀ e ∈ s.events, e.number < s.calls
  orderly : Orderly s.events
  results : ∀ n t op a held, .returned n t op a held ∈ s.events →
    Gives p.object (init (p.mutex op)) (entries p (p.mutex op) s.events) (n, op) a held

section Invariant

variable {leaks : Prop} {p : Program M Op σ α} {init : M → σ} {s : System Tid M Op σ α} {t : Tid} {m : M}

theorem inv_start : Inv leaks p init (.start init : System Tid M Op σ α) where
  phase _ _ at_ := by cases at_
  settled _ _ := rfl
  apart _ _ _ _ at_ := by cases at_
  numbered _ mem := absurd mem List.not_mem_nil
  orderly := trivial
  results _ _ _ _ _ mem := absurd mem List.not_mem_nil

/-- A call that holds the mutex is inside. -/
theorem Phase.inside_of {n d : Nat} {op : Op} {code : Code σ α}
    (h : Phase leaks p init s t ⟨n, op, d + 1, code⟩) :
    s.holder (p.mutex op) = some t ∧ d < s.times (p.mutex op) ∧ code.Inside leaks d ∧
      .entered n t op ∈ s.events ∧ ∃ earlier, entries p (p.mutex op) s.events = (n, op) :: earlier ∧
        code.alone (s.memory (p.mutex op)) =
          (p.code op).alone (replay p.object (init (p.mutex op)) earlier) ∧
        code.kept (d + 1) (s.memory (p.mutex op)) =
          (p.code op).kept 0 (replay p.object (init (p.mutex op)) earlier) := by
  cases h with
  | inside holder held stays last left kept entered =>
    exact ⟨holder, held, stays, entered, _, last, left, kept⟩

/-- Another thread's call is where it was. -/
theorem Phase.frame {s' : System Tid M Op σ α} {r : Running Op σ α} (h : Phase leaks p init s t r)
    (mono : ∀ e ∈ s.events, e ∈ s'.events)
    (new : ∀ t op, .entered r.number t op ∈ s'.events → .entered r.number t op ∈ s.events)
    (gives : ∀ call a held, Gives p.object (init (p.mutex r.op)) (entries p (p.mutex r.op) s.events) call a held →
      Gives p.object (init (p.mutex r.op)) (entries p (p.mutex r.op) s'.events) call a held)
    (own : 0 < r.held → entries p (p.mutex r.op) s'.events = entries p (p.mutex r.op) s.events ∧
      s'.memory (p.mutex r.op) = s.memory (p.mutex r.op) ∧
      s'.holder (p.mutex r.op) = s.holder (p.mutex r.op) ∧ s'.times (p.mutex r.op) = s.times (p.mutex r.op)) :
    Phase leaks p init s' t r := by
  cases h with
  | before fresh called => exact .before (fun t op mem => fresh t op (new t op mem)) (mono _ called)
  | inside holder held stays last left kept entered =>
    obtain ⟨entries, memory, holder', times⟩ := own (Nat.succ_pos _)
    dsimp only at entries memory holder' times
    apply Phase.inside
    · rw [holder', holder]
    · rw [times]
      exact held
    · exact stays
    · rw [entries, last]
    · rw [memory]
      exact left
    · rw [memory]
      exact kept
    · exact mono _ entered
  | after given entered => exact .after (gives _ _ _ given) (mono _ entered)

/-- A thread that may take a mutex, or has it, is the only one inside. -/
theorem Inv.elsewhere (h : Inv leaks p init s) {u : Tid} {r : Running Op σ α} (at_ : s.running u = some r)
    (inside : 0 < r.held) (ne : u ≠ t) (mine : s.times m = 0 ∨ s.holder m = some t) : p.mutex r.op ≠ m := by
  rintro rfl
  obtain ⟨n, op, held, code⟩ := r
  cases held with
  | zero => exact absurd inside (Nat.lt_irrefl 0)
  | succ d =>
    obtain ⟨holder, times, -⟩ := (h.phase u _ at_).inside_of
    dsimp only at mine
    rcases mine with free | mine
    · omega
    · rw [holder] at mine
      exact ne (Option.some.inj mine)

/-- A call that is not about to take the mutex or to return is inside. -/
theorem Inv.busy (h : Inv leaks p init s) (guarded : ∀ op, (p.code op).Guarded leaks) {r : Running Op σ α}
    (at_ : s.running t = some r) (unlocked : ∀ rest, r.code ≠ .lock rest) (open_ : ∀ a, r.code ≠ .done a) :
    ∃ d, r.held = d + 1 := by
  cases h.phase t r at_ with
  | @before n op =>
    obtain ⟨rest, e, -⟩ := guarded op
    exact absurd e (unlocked rest)
  | @inside _ _ d => exact ⟨d, rfl⟩
  | after => exact absurd rfl (open_ _)

variable [DecidableEq Tid]

omit [DecidableEq M] in
theorem update_some {f : Tid → Option β} {x : Option β} {t u : Tid} {b : β}
    (h : Function.update f t x u = some b) : u = t ∧ x = some b ∨ u ≠ t ∧ f u = some b := by
  by_cases e : u = t
  · rw [e, Function.update_self] at h
    exact .inl ⟨e, h⟩
  · rw [Function.update_of_ne e] at h
    exact .inr ⟨e, h⟩

/-- A call advances under its mutex. -/
theorem Inv.advance (h : Inv leaks p init s) {s' : System Tid M Op σ α} {r : Running Op σ α}
    (r' : Running Op σ α) (at_ : s.running t = some r) (number : r'.number = r.number) (op : r'.op = r.op)
    (running : s'.running = Function.update s.running t (some r')) (calls : s'.calls = s.calls)
    (elsewhere : ∀ m, m ≠ p.mutex r.op →
      s'.memory m = s.memory m ∧ s'.holder m = s.holder m ∧ s'.times m = s.times m)
    (mine : s.times (p.mutex r.op) = 0 ∨ s.holder (p.mutex r.op) = some t)
    (events : s'.events = s.events ∨ s'.events = .entered r.number t r.op :: s.events ∧
      (∀ t op, .entered r.number t op ∉ s.events) ∧ .called r.number t r.op ∈ s.events)
    (phase : Phase leaks p init s' t r')
    (settled : r'.held = 0 → s'.memory (p.mutex r.op) =
      replay p.object (init (p.mutex r.op)) (entries p (p.mutex r.op) s'.events)) : Inv leaks p init s' := by
  have mono : ∀ e ∈ s.events, e ∈ s'.events := fun e mem => by
    rcases events with same | ⟨more, -⟩
    · exact same ▸ mem
    · exact more ▸ List.mem_cons_of_mem _ mem
  have lists : ∀ m, m ≠ p.mutex r.op → entries p m s'.events = entries p m s.events := fun m ne => by
    rcases events with same | ⟨more, -⟩
    · rw [same]
    · rw [more]
      exact List.filterMap_cons_none (if_neg ne.symm)
  have gives : ∀ m call a held, Gives p.object (init m) (entries p m s.events) call a held →
      Gives p.object (init m) (entries p m s'.events) call a held := fun m call a held given => by
    by_cases here : m = p.mutex r.op
    · rcases events with same | ⟨more, -⟩
      · rw [same]
        exact given
      · have split : entries p m s'.events = (r.number, r.op) :: entries p m s.events := by
          rw [more]
          exact List.filterMap_cons_some (if_pos here.symm)
        rw [split]
        exact given.later _
    · rw [lists m here]
      exact given
  constructor
  · intro u q at_'
    rw [running] at at_'
    rcases update_some at_' with ⟨rfl, e⟩ | ⟨ne, at_'⟩
    · exact Option.some.inj e ▸ phase
    · have own := h.phase u q at_'
      apply own.frame mono _ (gives _)
      · intro inside
        have apart : p.mutex q.op ≠ p.mutex r.op := h.elsewhere at_' inside ne mine
        exact ⟨lists _ apart, elsewhere _ apart⟩
      · intro v o mem
        rcases events with same | ⟨more, -⟩
        · exact same ▸ mem
        · rw [more] at mem
          rcases List.mem_cons.1 mem with e | old
          · exact absurd (h.apart u t q r at_' at_ (Event.entered.inj e).1) ne
          · exact old
  · intro m quiet
    by_cases here : m = p.mutex r.op
    · subst here
      apply settled
      apply quiet t r' (by rw [running, Function.update_self])
      rw [op]
    · rw [lists m here, (elsewhere m here).1]
      apply h.settled
      intro u q at_' on
      by_cases e : u = t
      · subst e
        rw [at_] at at_'
        obtain rfl := Option.some.inj at_'
        exact absurd on.symm here
      · apply quiet u q _ on
        rw [running, Function.update_of_ne e]
        exact at_'
  · intro u v q q' at_' at_'' same
    rw [running] at at_' at_''
    rcases update_some at_' with ⟨rfl, e⟩ | ⟨ne, old⟩
    · rcases update_some at_'' with ⟨rfl, -⟩ | ⟨-, old'⟩
      · rfl
      · obtain rfl := Option.some.inj e
        exact h.apart _ _ r q' at_ old' (number ▸ same)
    · rcases update_some at_'' with ⟨rfl, e⟩ | ⟨-, old'⟩
      · obtain rfl := Option.some.inj e
        exact h.apart _ _ q r old at_ (number ▸ same)
      · exact h.apart _ _ q q' old old' same
  · intro e mem
    rw [calls]
    rcases events with same | ⟨more, -, called⟩
    · exact h.numbered e (same ▸ mem)
    · rw [more] at mem
      rcases List.mem_cons.1 mem with rfl | old
      · have below := h.numbered _ called
        exact below
      · exact h.numbered e old
  · rcases events with same | ⟨more, new, called⟩
    · rw [same]
      exact h.orderly
    · rw [more]
      exact ⟨h.orderly, called, new⟩
  · intro n u o a held mem
    have old : .returned n u o a held ∈ s.events := by
      rcases events with same | ⟨more, -⟩
      · exact same ▸ mem
      · rw [more] at mem
        rcases List.mem_cons.1 mem with e | old
        · cases e
        · exact old
    exact gives _ _ _ _ (h.results n u o a held old)

/-- A thread makes a call. -/
theorem Inv.call (h : Inv leaks p init s) (idle : s.running t = none) (op : Op) :
    Inv leaks p init { s with
      running := Function.update s.running t (some ⟨s.calls, op, 0, p.code op⟩)
      calls := s.calls + 1
      events := .called s.calls t op :: s.events } := by
  have unused : ∀ v o, .entered s.calls v o ∉ s.events := fun v o mem => Nat.lt_irrefl _ (h.numbered _ mem)
  have below : ∀ u q, s.running u = some q → q.number < s.calls := fun u q at_ => by
    cases h.phase u q at_ with
    | before _ called => exact h.numbered _ called
    | inside _ _ _ _ _ _ entered => exact h.numbered _ entered
    | after _ entered => exact h.numbered _ entered
  constructor
  · intro u q at_
    rcases update_some at_ with ⟨rfl, e⟩ | ⟨ne, at_⟩
    · obtain rfl := Option.some.inj e
      apply Phase.before
      · intro v o mem
        rcases List.mem_cons.1 mem with e | old
        · cases e
        · exact unused v o old
      · exact List.mem_cons_self
    · apply (h.phase u q at_).frame (fun e mem => List.mem_cons_of_mem _ mem)
      · intro v o mem
        rcases List.mem_cons.1 mem with e | old
        · cases e
        · exact old
      · exact fun _ _ _ given => given
      · exact fun _ => ⟨rfl, rfl, rfl, rfl⟩
  · intro m quiet
    apply h.settled m
    intro u q at_ on
    apply quiet u q _ on
    have ne : u ≠ t := by
      rintro rfl
      rw [idle] at at_
      cases at_
    show Function.update s.running t _ u = _
    rw [Function.update_of_ne ne]
    exact at_
  · intro u v q q' at_ at_' same
    rcases update_some at_ with ⟨rfl, e⟩ | ⟨ne, old⟩
    · rcases update_some at_' with ⟨rfl, -⟩ | ⟨-, old'⟩
      · rfl
      · obtain rfl := Option.some.inj e
        exact absurd (below v q' old') (by rw [← same]; exact Nat.lt_irrefl _)
    · rcases update_some at_' with ⟨rfl, e⟩ | ⟨-, old'⟩
      · obtain rfl := Option.some.inj e
        exact absurd (below u q old) (by rw [same]; exact Nat.lt_irrefl _)
      · exact h.apart _ _ q q' old old' same
  · intro e mem
    rcases List.mem_cons.1 mem with rfl | old
    · exact Nat.lt_succ_self _
    · exact Nat.lt_succ_of_lt (h.numbered e old)
  · exact ⟨h.orderly, h.numbered⟩
  · intro n u o a held mem
    rcases List.mem_cons.1 mem with e | old
    · cases e
    · exact h.results n u o a held old

/-- A call returns. -/
theorem Inv.ret (h : Inv leaks p init s) {n held : Nat} {op : Op} {a : α}
    (at_ : s.running t = some ⟨n, op, held, .done a⟩) (guarded : ∀ op, (p.code op).Guarded leaks) :
    Inv leaks p init { s with
      running := Function.update s.running t none
      events := .returned n t op a held :: s.events } := by
  have ended : .entered n t op ∈ s.events ∧
      Gives p.object (init (p.mutex op)) (entries p (p.mutex op) s.events) (n, op) a held ∧
      (0 < held → s.memory (p.mutex op) =
        replay p.object (init (p.mutex op)) (entries p (p.mutex op) s.events)) := by
    cases hp : held with
    | zero =>
      subst hp
      generalize hc : (Code.done a : Code σ α) = code at at_
      cases h.phase t _ at_ with
      | before =>
        obtain ⟨rest, e, -⟩ := guarded op
        rw [e] at hc
        cases hc
      | after gives entered =>
        cases hc
        exact ⟨entered, gives, fun pos => absurd pos (Nat.lt_irrefl 0)⟩
    | succ d =>
      subst hp
      obtain ⟨-, -, -, entered, earlier, last, left, kept⟩ := (h.phase t _ at_).inside_of
      refine ⟨entered, ⟨[], earlier, last, congrArg Prod.fst left, kept⟩, fun _ => ?_⟩
      rw [last]
      exact congrArg Prod.snd left
  obtain ⟨entered, gives, settled⟩ := ended
  constructor
  · intro u q at_'
    rcases update_some at_' with ⟨rfl, e⟩ | ⟨ne, at_'⟩
    · cases e
    · apply (h.phase u q at_').frame (fun e mem => List.mem_cons_of_mem _ mem)
      · intro v o mem
        rcases List.mem_cons.1 mem with e | old
        · cases e
        · exact old
      · exact fun _ _ _ given => given
      · exact fun _ => ⟨rfl, rfl, rfl, rfl⟩
  · intro m quiet
    have others : ∀ u q, u ≠ t → s.running u = some q → p.mutex q.op = m → q.held = 0 :=
      fun u q ne at_' on => by
        apply quiet u q _ on
        show Function.update s.running t _ u = _
        rw [Function.update_of_ne ne]
        exact at_'
    by_cases here : 0 < held ∧ p.mutex op = m
    · obtain ⟨pos, rfl⟩ := here
      exact settled pos
    · apply h.settled m
      intro u q at_' on
      by_cases e : u = t
      · subst e
        rw [at_] at at_'
        obtain rfl := Option.some.inj at_'
        exact Nat.eq_zero_of_not_pos fun pos => here ⟨pos, on⟩
      · exact others u q e at_' on
  · intro u v q q' at_' at_'' same
    rcases update_some at_' with ⟨-, e⟩ | ⟨-, old⟩
    · cases e
    · rcases update_some at_'' with ⟨-, e⟩ | ⟨-, old'⟩
      · cases e
      · exact h.apart _ _ q q' old old' same
  · intro e mem
    rcases List.mem_cons.1 mem with rfl | old
    · have below := h.numbered _ entered
      exact below
    · exact h.numbered e old
  · exact ⟨h.orderly, entered⟩
  · intro n' u o b held' mem
    rcases List.mem_cons.1 mem with e | old
    · cases e
      exact gives
    · exact h.results n' u o b held' old

/-- A call that is about to enter has not begun, and finds the memory as the calls before it have left it. -/
theorem Inv.entering (h : Inv leaks p init s) {n : Nat} {op : Op} {rest : Code σ α}
    (at_ : s.running t = some ⟨n, op, 0, .lock rest⟩)
    (free : s.times (p.mutex op) = 0 ∨ s.holder (p.mutex op) = some t) :
    p.code op = .lock rest ∧ (∀ t op, .entered n t op ∉ s.events) ∧ .called n t op ∈ s.events ∧
      s.memory (p.mutex op) = replay p.object (init (p.mutex op)) (entries p (p.mutex op) s.events) := by
  have settled : s.memory (p.mutex op) =
      replay p.object (init (p.mutex op)) (entries p (p.mutex op) s.events) := by
    apply h.settled
    intro u q at_' on
    by_cases e : u = t
    · subst e
      rw [at_] at at_'
      obtain rfl := Option.some.inj at_'
      rfl
    · exact Nat.eq_zero_of_not_pos fun inside => h.elsewhere at_' inside e free on
  generalize hc : Code.lock rest = code at at_ ⊢
  cases h.phase t _ at_ with
  | before new called => exact ⟨rfl, new, called, settled⟩
  | after => cases hc

/-- Whatever moves, the invariant holds. -/
theorem Inv.step (h : Inv leaks p init s) (guarded : ∀ op, (p.code op).Guarded leaks) (i : Tid × Op) :
    Inv leaks p init (step p s i) := by
  obtain ⟨t, op⟩ := i
  have moves := step_moves p s t op
  generalize Threads.step p s (t, op) = s' at moves ⊢
  cases moves with
  | call idle => exact h.call idle op
  | ret at_ => exact h.ret at_ guarded
  | @enter n op' rest at_ free =>
    obtain ⟨code, new, called, settled⟩ := h.entering at_ free
    obtain ⟨rest', e, stays⟩ := guarded op'
    obtain rfl : rest = rest' := Code.lock.inj (code.symm.trans e)
    refine h.advance ⟨n, op', 1, rest⟩ at_ rfl rfl rfl rfl (fun m ne => ?_) free
      (.inr ⟨rfl, new, called⟩) ?_ ?_
    · exact ⟨rfl, Function.update_of_ne ne .., Function.update_of_ne ne ..⟩
    · apply Phase.inside
      · exact Function.update_self ..
      · dsimp only
        rw [Function.update_self]
        omega
      · exact stays
      · exact List.filterMap_cons_some (if_pos rfl)
      · rw [code]
        show rest.alone (s.memory (p.mutex op')) = _
        rw [settled]
        rfl
      · rw [code]
        show rest.kept 1 (s.memory (p.mutex op')) = _
        rw [settled]
        rfl
      · exact List.mem_cons_self
    · intro none
      cases none
  | @again n op' d rest at_ free =>
    obtain ⟨-, held, stays, entered, earlier, last, left, kept⟩ := (h.phase t _ at_).inside_of
    refine h.advance ⟨n, op', d + 2, rest⟩ at_ rfl rfl rfl rfl (fun m ne => ?_) free (.inl rfl) ?_ ?_
    · exact ⟨rfl, Function.update_of_ne ne .., Function.update_of_ne ne ..⟩
    · apply Phase.inside
      · exact Function.update_self ..
      · dsimp only
        rw [Function.update_self]
        omega
      · exact stays
      · exact last
      · exact left
      · exact kept
      · exact entered
    · intro none
      cases none
  | wait => exact h
  | @unlock n op' held rest at_ =>
    obtain ⟨d, rfl⟩ : ∃ d, held = d + 1 :=
      h.busy guarded at_ (fun _ e => by cases e) fun _ e => by cases e
    obtain ⟨holder, times, stays, entered, earlier, last, left, kept⟩ := (h.phase t _ at_).inside_of
    refine h.advance ⟨n, op', d, rest⟩ at_ rfl rfl rfl rfl (fun m ne => ?_) (.inr holder) (.inl rfl) ?_ ?_
    · exact ⟨rfl, rfl, Function.update_of_ne ne ..⟩
    · cases d with
      | zero =>
        obtain ⟨a, rfl⟩ := stays
        exact .after ⟨[], earlier, last, congrArg Prod.fst left, kept⟩ entered
      | succ d =>
        apply Phase.inside
        · exact holder
        · dsimp only
          rw [Function.update_self]
          omega
        · exact stays
        · exact last
        · exact left
        · exact kept
        · exact entered
    · intro none
      obtain rfl : d = 0 := none
      obtain ⟨a, rfl⟩ := stays
      show s.memory _ = _
      rw [last]
      exact congrArg Prod.snd left
  | @access n op' held effect rest at_ =>
    obtain ⟨d, rfl⟩ : ∃ d, held = d + 1 :=
      h.busy guarded at_ (fun _ e => by cases e) fun _ e => by cases e
    obtain ⟨holder, times, stays, entered, earlier, last, left, kept⟩ := (h.phase t _ at_).inside_of
    refine h.advance ⟨n, op', d + 1, rest (s.memory (p.mutex op'))⟩ at_ rfl rfl rfl rfl (fun m ne => ?_)
      (.inr holder) (.inl rfl) ?_ ?_
    · exact ⟨Function.update_of_ne ne .., rfl, rfl⟩
    · apply Phase.inside
      · exact holder
      · exact times
      · cases d <;> exact stays _
      · exact last
      · dsimp only
        rw [Function.update_self]
        exact left
      · dsimp only
        rw [Function.update_self]
        exact kept
      · exact entered
    · intro none
      cases none

theorem inv_exec (guarded : ∀ op, (p.code op).Guarded leaks) (is : List (Tid × Op)) :
    Inv leaks p init (Runs.exec (step p) (.start init) is) := by
  induction is using List.reverseRecOn with
  | nil => exact inv_start
  | append_singleton is i ih =>
    rw [Runs.exec_append]
    exact ih.step guarded i

/-- **Linearizability.** Under every schedule the calls on a memory act like calls one after another, in the
order in which they took its mutex; and while no call is inside, the memory is what these calls make of it. -/
theorem linearizable (guarded : ∀ op, (p.code op).Guarded leaks) (is : List (Tid × Op)) (m : M) :
    let s := Runs.exec (step p) (.start init) is
    Linearizes p p.object (init m) m s.events (entries p m s.events) ∧
      (s.Quiet p m → s.memory m = replay p.object (init m) (entries p m s.events)) := by
  intro s
  have h : Inv leaks p init s := inv_exec guarded is
  refine ⟨?_, h.settled m⟩
  constructor
  · rintro ⟨n, op⟩ mem
    obtain ⟨here, t, entered⟩ := mem_entries.1 mem
    exact ⟨here, t, h.orderly.of_entered entered⟩
  · exact h.orderly.once
  · rintro n t op a held returned rfl
    exact h.results n t op a held returned
  · intro newer n' t' op' older n t op a held split returned here later
    rw [split] at later ⊢
    have orderly := h.orderly
    rw [split] at orderly
    exact orderly.realTime returned here later

end Invariant

end Threads
