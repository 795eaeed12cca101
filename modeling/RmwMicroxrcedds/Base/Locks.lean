/-!
# Recursive locks, counted

Programs of one thread over a memory, which take and give back recursive locks on the way. `Shifts I d p`
says that `p` keeps the property `I` of the memory and leaves every lock held as often as before, plus what
`d` says. Sequences add up, and both ways of a branch have to shift alike, so a function with several exits is
followed from its first lock to each of them.
-/

namespace Locks
set_option autoImplicit false

variable {σ M α γ : Type}

/-- A memory, and how often the thread holds each lock. -/
structure Thread (σ M : Type) where
  memory : σ
  held : M → Int

abbrev Locking (σ M : Type) := StateM (Thread σ M)

/-- Code that touches no lock. -/
def unlocked (f : σ → α × σ) : Locking σ M α := fun t =>
  ((f t.memory).1, { t with memory := (f t.memory).2 })

def read : Locking σ M σ := unlocked fun s => (s, s)

def write (f : σ → σ) : Locking σ M Unit := unlocked fun s => ((), f s)

section Locks

variable [DecidableEq M]

/-- One more hold of a lock. -/
def once (m : M) : M → Int := fun m' => if m' = m then 1 else 0

def lock (m : M) : Locking σ M Unit := fun t => ((), { t with held := fun m' => t.held m' + once m m' })

def unlock (m : M) : Locking σ M Unit := fun t =>
  ((), { t with held := fun m' => t.held m' - once m m' })

end Locks

/-- The program keeps `I`, and shifts the holds by `d`. -/
structure Shifts (I : σ → Prop) (d : M → Int) (p : Locking σ M α) : Prop where
  keeps : ∀ t, I t.memory → I (p t).2.memory
  held : ∀ t, I t.memory → ∀ m, (p t).2.held m = t.held m + d m

/-- All locks are held as often as before. -/
abbrev Balanced (I : σ → Prop) (p : Locking σ M α) : Prop := Shifts I (fun _ => 0) p

variable {I : σ → Prop} {d e : M → Int}

theorem Balanced.held_eq {p : Locking σ M α} (h : Balanced I p) {t : Thread σ M} (start : I t.memory) :
    (p t).2.held = t.held := by
  funext m
  have same := h.held t start m
  omega

theorem bind_run (p : Locking σ M α) (f : α → Locking σ M γ) (t : Thread σ M) :
    (p >>= f) t = f (p t).1 (p t).2 := rfl

/-- A sequence, with what is known of the value in between. -/
theorem Shifts.bind {p : Locking σ M α} {f : α → Locking σ M γ} {P : α → Prop} (first : Shifts I d p)
    (value : ∀ t, I t.memory → P (p t).1) (next : ∀ a, P a → Shifts I e (f a)) :
    Shifts I (fun m => d m + e m) (p >>= f) := by
  constructor
  · intro t start
    exact (next _ (value t start)).keeps _ (first.keeps t start)
  · intro t start m
    have before := first.held t start m
    have after := (next _ (value t start)).held (p t).2 (first.keeps t start) m
    rw [bind_run]
    omega

theorem Shifts.congr {p : Locking σ M α} (h : Shifts I d p) (same : ∀ m, d m = e m) : Shifts I e p := by
  obtain rfl : d = e := funext same
  exact h

/-- Balanced code in front of a program makes no difference. -/
theorem Balanced.before_of {p : Locking σ M α} {f : α → Locking σ M γ} {P : α → Prop}
    (first : Balanced I p) (value : ∀ t, I t.memory → P (p t).1) (next : ∀ a, P a → Shifts I d (f a)) :
    Shifts I d (p >>= f) := by
  apply (Shifts.bind first value next).congr
  intro m
  omega

theorem Balanced.before {p : Locking σ M α} {f : α → Locking σ M γ} (first : Balanced I p)
    (next : ∀ a, Shifts I d (f a)) : Shifts I d (p >>= f) :=
  Balanced.before_of (P := fun _ => True) first (fun _ _ => trivial) fun a _ => next a

theorem balanced_pure (a : α) : Balanced I (pure a : Locking σ M α) where
  keeps _ start := start
  held t _ m := by
    show t.held m = _
    omega

/-- What follows only returns. -/
theorem Balanced.giving {p : Locking σ M α} (h : Balanced I p) (f : α → γ) :
    Balanced I (p >>= fun a => pure (f a)) := h.before fun _ => balanced_pure _

theorem Shifts.ite {c : Prop} [Decidable c] {p q : Locking σ M α} (yes : c → Shifts I d p)
    (no : ¬ c → Shifts I d q) : Shifts I d (if c then p else q) := by
  by_cases h : c
  · rw [if_pos h]
    exact yes h
  · rw [if_neg h]
    exact no h

theorem balanced_unlocked {f : σ → α × σ} (keeps : ∀ s, I s → I (f s).2) :
    Balanced I (unlocked f : Locking σ M α) where
  keeps t start := keeps _ start
  held t _ m := by
    show t.held m = _
    omega

theorem balanced_read : Balanced I (read : Locking σ M σ) := balanced_unlocked fun _ start => start

theorem balanced_write {f : σ → σ} (keeps : ∀ s, I s → I (f s)) :
    Balanced I (write f : Locking σ M Unit) := balanced_unlocked keeps

section Rules

variable [DecidableEq M]

/-- A lock that is given back on every way out. -/
theorem Balanced.locked {m : M} {rest : Unit → Locking σ M α}
    (out : Shifts I (fun m' => - once m m') (rest ())) : Balanced I (lock m >>= rest) := by
  constructor
  · intro t start
    exact out.keeps _ start
  · intro t start m'
    have after := out.held (lock m t).2 start m'
    have inside : (lock m t).2.held m' = t.held m' + once m m' := rfl
    rw [bind_run]
    show (rest () (lock m t).2).2.held m' = _
    omega

/-- A way out: the lock is given back, and balanced code follows. -/
theorem Balanced.exit {m : M} {rest : Unit → Locking σ M α} (out : Balanced I (rest ())) :
    Shifts I (fun m' => - once m m') (unlock m >>= rest) := by
  constructor
  · intro t start
    exact out.keeps _ start
  · intro t start m'
    have after := out.held (unlock m t).2 start m'
    have outside : (unlock m t).2.held m' = t.held m' - once m m' := rfl
    rw [bind_run]
    show (rest () (unlock m t).2).2.held m' = _
    omega

theorem shifts_unlock (m : M) :
    Shifts I (fun m' => - once m m') (unlock m : Locking σ M Unit) where
  keeps _ start := start
  held t _ m' := by
    show t.held m' - once m m' = _
    omega

end Rules

theorem balanced_forM {l : List α} {f : α → Locking σ M Unit} (each : ∀ a, Balanced I (f a)) :
    Balanced I (l.forM f) := by
  induction l with
  | nil => exact balanced_pure _
  | cons a l ih => exact (each a).before fun _ => ih

end Locks
