import Mathlib.Data.List.Basic
import Mathlib.Data.List.Nodup

/-!
# Intrusive doubly linked lists

A heap maps the address of a list item to its two link fields. `Seg` says that a run of
items hangs between two pointers, `Chain` that a head pointer owns a NULL-terminated list
whose first `prev` is NULL. The three pointer surgeries of an intrusive list are `unlink`,
`popFront` and `pushFront`; each has one theorem saying which list hangs off the head
afterwards, and one saying which addresses it leaves alone. Several lists may share one
heap: a list is carried across a surgery by `Chain.congr`. `WellLinked` says what a chain is
to a reader of the link fields.
-/

namespace Intrusive

/-- The link fields embedded in a list item. -/
structure Link (α : Type) where
  prev : Option α
  next : Option α
deriving DecidableEq, Inhabited

variable {α : Type} [DecidableEq α]

/-- `x->next = v`. -/
def setNext (L : α → Link α) (x : α) (v : Option α) : α → Link α :=
  fun y => if y = x then { L x with next := v } else L y

/-- `x->prev = v`. -/
def setPrev (L : α → Link α) (x : α) (v : Option α) : α → Link α :=
  fun y => if y = x then { L x with prev := v } else L y

@[simp] theorem setNext_self (L : α → Link α) (x : α) (v : Option α) :
    setNext L x v x = { L x with next := v } := if_pos rfl

@[simp] theorem setPrev_self (L : α → Link α) (x : α) (v : Option α) :
    setPrev L x v x = { L x with prev := v } := if_pos rfl

theorem setNext_of_ne (L : α → Link α) {x y : α} (v : Option α) (h : y ≠ x) :
    setNext L x v y = L y := if_neg h

theorem setPrev_of_ne (L : α → Link α) {x y : α} (v : Option α) (h : y ≠ x) :
    setPrev L x v y = L y := if_neg h

@[simp] theorem setNext_prev (L : α → Link α) (x y : α) (v : Option α) :
    (setNext L x v y).prev = (L y).prev := by
  unfold setNext; split <;> simp_all

@[simp] theorem setPrev_next (L : α → Link α) (x y : α) (v : Option α) :
    (setPrev L x v y).next = (L y).next := by
  unfold setPrev; split <;> simp_all

/-- The items `xs` hang between `p`/`h` and `q`/`t`: `h` is the pointer that enters them and
`p` the `prev` of the first, `q` is the last of them and `t` the pointer that leaves it. -/
def Seg (L : α → Link α) : Option α → Option α → List α → Option α → Option α → Prop
  | p, h, [], q, t => h = t ∧ p = q
  | p, h, x :: xs, q, t => h = some x ∧ (L x).prev = p ∧ Seg L (some x) (L x).next xs q t

/-- The head pointer `h` owns exactly the list `xs`. -/
def Chain (L : α → Link α) (h : Option α) (xs : List α) : Prop := ∃ q, Seg L none h xs q none

omit [DecidableEq α] in
theorem seg_append {L : α → Link α} {xs ys : List α} {p h q t : Option α} :
    Seg L p h (xs ++ ys) q t ↔ ∃ m n, Seg L p h xs m n ∧ Seg L m n ys q t := by
  induction xs generalizing p h with
  | nil =>
    constructor
    · intro s
      exact ⟨p, h, ⟨rfl, rfl⟩, s⟩
    · rintro ⟨m, n, ⟨rfl, rfl⟩, s⟩
      exact s
  | cons x xs ih =>
    constructor
    · rintro ⟨hx, hp, s⟩
      obtain ⟨m, n, s1, s2⟩ := ih.1 s
      exact ⟨m, n, ⟨hx, hp, s1⟩, s2⟩
    · rintro ⟨m, n, ⟨hx, hp, s1⟩, s2⟩
      exact ⟨hx, hp, ih.2 ⟨m, n, s1, s2⟩⟩

omit [DecidableEq α] in
/-- A segment only reads the links of its own items. -/
theorem Seg.congr {L L' : α → Link α} {xs : List α} {p h q t : Option α}
    (s : Seg L p h xs q t) (same : ∀ x ∈ xs, L' x = L x) : Seg L' p h xs q t := by
  induction xs generalizing p h with
  | nil => exact s
  | cons x xs ih =>
    obtain ⟨hx, hp, s⟩ := s
    have hl : L' x = L x := same x (by simp)
    refine ⟨hx, by rw [hl]; exact hp, ?_⟩
    rw [hl]
    exact ih s fun y hy => same y (by simp [hy])

omit [DecidableEq α] in
theorem Chain.congr {L L' : α → Link α} {xs : List α} {h : Option α}
    (c : Chain L h xs) (same : ∀ x ∈ xs, L' x = L x) : Chain L' h xs :=
  c.imp fun _ s => s.congr same

omit [DecidableEq α] in
theorem Chain.head {L : α → Link α} {xs : List α} {h : Option α} (c : Chain L h xs) :
    h = xs.head? := by
  obtain ⟨q, s⟩ := c
  cases xs with
  | nil => exact s.1
  | cons x xs => exact s.1

omit [DecidableEq α] in
theorem Chain.nil_iff {L : α → Link α} {h : Option α} : Chain L h [] ↔ h = none := by
  simp [Chain, Seg]

omit [DecidableEq α] in
/-- The last item of a segment is what the segment says it is. -/
theorem Seg.last {L : α → Link α} {xs : List α} {y : α} {p h q t : Option α}
    (s : Seg L p h (xs ++ [y]) q t) : q = some y ∧ t = (L y).next := by
  obtain ⟨m, n, -, hn, -, s⟩ := seg_append.1 s
  exact ⟨s.2.symm, s.1.symm⟩

/-- Redirecting the pointer that leaves a segment. -/
theorem Seg.setNext_last {L : α → Link α} {xs : List α} {y : α} {p h q t : Option α}
    (s : Seg L p h (xs ++ [y]) q t) (fresh : y ∉ xs) (t' : Option α) :
    Seg (setNext L y t') p h (xs ++ [y]) (some y) t' := by
  obtain ⟨m, n, s1, hn, hp, -⟩ := seg_append.1 s
  refine seg_append.2 ⟨m, n, s1.congr fun x hx => setNext_of_ne _ _ ?_, hn, ?_, ?_, rfl⟩
  · rintro rfl; exact fresh hx
  · simpa using hp
  · simp

/-- Redirecting the `prev` of the first item of a segment. -/
theorem Seg.setPrev_first {L : α → Link α} {xs : List α} {x : α} {p h q t : Option α}
    (s : Seg L p h (x :: xs) q t) (fresh : x ∉ xs) (p' : Option α) :
    Seg (setPrev L x p') p' h (x :: xs) q t := by
  obtain ⟨hx, -, s⟩ := s
  refine ⟨hx, by simp, ?_⟩
  rw [setPrev_next]
  refine s.congr fun y hy => setPrev_of_ne _ _ ?_
  rintro rfl; exact fresh hy

/-- Taking `x` out of the list it is in: its neighbours are joined. -/
def unlink (L : α → Link α) (x : α) : α → Link α :=
  let L := match (L x).prev with
    | some p => setNext L p (L x).next
    | none => L
  match (L x).next with
  | some n => setPrev L n (L x).prev
  | none => L

/-- Taking the head `x` out of its list: its successor becomes a head. -/
def popFront (L : α → Link α) (x : α) : α → Link α :=
  match (L x).next with
  | some n => setPrev L n none
  | none => L

/-- Putting `x` in front of the list that `h` heads. -/
def pushFront (L : α → Link α) (h : Option α) (x : α) : α → Link α :=
  let L := setNext L x h
  let L := match (L x).next with
    | some f => setPrev L f (some x)
    | none => L
  setPrev L x none

theorem unlink_of_ne {L : α → Link α} {x y : α} (hp : (L x).prev ≠ some y)
    (hn : (L x).next ≠ some y) (self : (L x).prev ≠ some x) : unlink L x y = L y := by
  unfold unlink
  cases hprev : (L x).prev with
  | none =>
    cases hnext : (L x).next with
    | none => rfl
    | some n =>
      have : y ≠ n := by rintro rfl; exact hn hnext
      simp [setPrev_of_ne _ _ this]
  | some p =>
    have hyp : y ≠ p := by rintro rfl; exact hp hprev
    have hxp : x ≠ p := by rintro rfl; exact self hprev
    cases hnext : (L x).next with
    | none => simp [setNext_of_ne _ _ hxp, hnext, setNext_of_ne _ _ hyp]
    | some n =>
      have : y ≠ n := by rintro rfl; exact hn hnext
      simp [setNext_of_ne _ _ hxp, hnext, setPrev_of_ne _ _ this, setNext_of_ne _ _ hyp]

theorem popFront_of_ne {L : α → Link α} {x y : α} (hn : (L x).next ≠ some y) :
    popFront L x y = L y := by
  unfold popFront
  cases h : (L x).next with
  | none => rfl
  | some n => exact setPrev_of_ne _ _ (by rintro rfl; exact hn h)

theorem pushFront_of_ne {L : α → Link α} {h : Option α} {x y : α} (hx : y ≠ x)
    (hh : h ≠ some y) : pushFront L h x y = L y := by
  unfold pushFront
  cases h with
  | none => simp [setPrev_of_ne _ _ hx, setNext_of_ne _ _ hx]
  | some f =>
    have : y ≠ f := by rintro rfl; exact hh rfl
    simp [setPrev_of_ne _ _ hx, setPrev_of_ne _ _ this, setNext_of_ne _ _ hx]

omit [DecidableEq α] in
/-- The neighbours of an item of a chain, read off its links. -/
theorem Chain.links {L : α → Link α} {h : Option α} {l r : List α} {x : α}
    (c : Chain L h (l ++ x :: r)) : (L x).prev = l.getLast? ∧ (L x).next = r.head? := by
  obtain ⟨q, s⟩ := c
  obtain ⟨m, n, sl, hn, hp, sr⟩ := seg_append.1 s
  constructor
  · rw [hp]
    rcases l.eq_nil_or_concat' with rfl | ⟨l', y, rfl⟩
    · simpa using sl.2.symm
    · simpa using sl.last.1
  · cases r with
    | nil => exact sr.1
    | cons z r => exact sr.1

/-- **Unlinking.** Wherever `x` stands in the list, afterwards the list is the rest of it, and
its head is the old one unless `x` was the head. -/
theorem Chain.unlink {L : α → Link α} {h : Option α} {l r : List α} {x : α}
    (c : Chain L h (l ++ x :: r)) (nodup : (l ++ x :: r).Nodup) :
    Chain (unlink L x) (if h = some x then (L x).next else h) (l ++ r) := by
  obtain ⟨hprev, hnext⟩ := c.links
  have hhead := c.head
  obtain ⟨q, s⟩ := c
  obtain ⟨m, n, sl, hn, hp, sr⟩ := seg_append.1 s
  simp only [List.nodup_append, List.nodup_cons, List.mem_cons, ne_eq] at nodup
  obtain ⟨nl, ⟨xr, nr⟩, disj⟩ := nodup
  have sr' : ∀ L' : α → Link α, (∀ y ∈ r, L' y = L y) → ∀ p, ∃ q,
      Seg (match r.head? with | some z => setPrev L' z p | none => L') p r.head? r q none := by
    intro L' same p
    cases r with
    | nil => exact ⟨p, rfl, rfl⟩
    | cons z r =>
      have fresh : z ∉ r := (List.nodup_cons.1 nr).1
      have s1 : Seg L' (some x) (some z) (z :: r) q none := by
        have := sr.congr same
        rwa [hnext] at this
      exact ⟨q, s1.setPrev_first fresh p⟩
  rcases l.eq_nil_or_concat' with rfl | ⟨l', y, rfl⟩
  · -- `x` is the head
    simp only [List.nil_append, List.head?_cons] at hhead
    simp only [List.getLast?_nil] at hprev
    rw [if_pos hhead, hnext]
    obtain ⟨q', s'⟩ := sr' L (fun _ _ => rfl) none
    refine ⟨q', ?_⟩
    simpa [Intrusive.unlink, hprev, hnext] using s'
  · -- `y` precedes `x`
    have hyx : y ≠ x := disj y (by simp) x (Or.inl rfl)
    have hne : h ≠ some x := by
      rw [hhead]
      cases l' with
      | nil => simpa using hyx
      | cons w l' => simpa using disj w (by simp) x (Or.inl rfl)
    rw [if_neg hne]
    simp only [List.getLast?_append, List.getLast?_singleton, Option.some_or] at hprev
    have fresh : y ∉ l' := by
      rw [List.nodup_append] at nl
      exact fun hy => nl.2.2 y hy y (by simp) rfl
    have s1 : Seg (setNext L y r.head?) none h (l' ++ [y]) (some y) r.head? :=
      sl.setNext_last fresh _
    have same : ∀ z ∈ r, setNext L y r.head? z = L z := fun z hz =>
      setNext_of_ne _ _ (by rintro rfl; exact disj z (by simp) z (Or.inr hz) rfl)
    obtain ⟨q', s'⟩ := sr' (setNext L y r.head?) same (some y)
    refine ⟨q', ?_⟩
    have hL : Intrusive.unlink L x = (match r.head? with
        | some z => setPrev (setNext L y r.head?) z (some y)
        | none => setNext L y r.head?) := by
      simp only [Intrusive.unlink, hprev, hnext, setNext_of_ne _ _ (Ne.symm hyx)]
    rw [hL]
    refine seg_append.2 ⟨some y, r.head?, ?_, s'⟩
    cases hr : r.head? with
    | none => rw [hr] at s1; exact s1
    | some z =>
      rw [hr] at s1
      refine s1.congr fun w hw => setPrev_of_ne _ _ ?_
      rintro rfl
      exact disj w hw w (Or.inr (List.mem_of_mem_head? hr)) rfl

/-- A list that shares no item with the one `x` is taken from keeps its links. -/
theorem Chain.unlink_frame {L : α → Link α} {h : Option α} {l r : List α} {x : α}
    (c : Chain L h (l ++ x :: r)) (nodup : (l ++ x :: r).Nodup) {y : α}
    (hy : y ∉ l ++ x :: r) : Intrusive.unlink L x y = L y := by
  obtain ⟨hprev, hnext⟩ := c.links
  refine unlink_of_ne ?_ ?_ ?_
  · rw [hprev]
    intro e
    exact hy (by simp [List.mem_of_getLast? e])
  · rw [hnext]
    intro e
    exact hy (by simp [List.mem_of_mem_head? e])
  · rw [hprev]
    intro e
    have hx := List.mem_of_getLast? e
    rw [List.nodup_append] at nodup
    exact nodup.2.2 x hx x (by simp) rfl

/-- Unlinking leaves the forward link of the item itself as it was. -/
theorem Chain.unlink_next {L : α → Link α} {h : Option α} {l r : List α} {x : α}
    (c : Chain L h (l ++ x :: r)) (nodup : (l ++ x :: r).Nodup) :
    (Intrusive.unlink L x x).next = (L x).next := by
  obtain ⟨hprev, hnext⟩ := c.links
  have self : (L x).prev ≠ some x := by
    rw [hprev]
    intro e
    have hx := List.mem_of_getLast? e
    rw [List.nodup_append] at nodup
    exact nodup.2.2 x hx x (by simp) rfl
  unfold Intrusive.unlink
  cases hp : (L x).prev with
  | none => cases hn : (L x).next <;> simp [hn]
  | some p =>
    have hxp : x ≠ p := by rintro rfl; exact self hp
    cases hn : (L x).next <;> simp [setNext_of_ne _ _ hxp, hn]

/-- **Popping the head.** -/
theorem Chain.popFront {L : α → Link α} {h : Option α} {xs : List α} {x : α}
    (c : Chain L h (x :: xs)) (fresh : x ∉ xs) (nodup : xs.Nodup) :
    Chain (popFront L x) (L x).next xs := by
  obtain ⟨q, -, -, s⟩ := c
  cases xs with
  | nil => exact ⟨none, s.1, rfl⟩
  | cons z xs =>
    have hz : (L x).next = some z := s.1
    refine ⟨q, ?_⟩
    simp only [Intrusive.popFront, hz]
    rw [hz] at s
    exact s.setPrev_first (List.nodup_cons.1 nodup).1 none

/-- **Pushing in front.** -/
theorem Chain.pushFront {L : α → Link α} {h : Option α} {xs : List α} {x : α}
    (c : Chain L h xs) (fresh : x ∉ xs) (nodup : xs.Nodup) :
    Chain (pushFront L h x) (some x) (x :: xs) := by
  have hhead := c.head
  obtain ⟨q, s⟩ := c
  cases xs with
  | nil =>
    obtain rfl : h = none := hhead
    refine ⟨some x, rfl, ?_, ?_, rfl⟩ <;> simp [Intrusive.pushFront]
  | cons z xs =>
    obtain rfl : h = some z := hhead
    have hzx : z ≠ x := by rintro rfl; exact fresh (by simp)
    have hzs : z ∉ xs := (List.nodup_cons.1 nodup).1
    have s1 : Seg (setNext L x (some z)) none (some z) (z :: xs) q none :=
      s.congr fun y hy => setNext_of_ne _ _ (by rintro rfl; exact fresh hy)
    have s2 := s1.setPrev_first hzs (some x)
    have s3 : Seg (Intrusive.pushFront L (some z) x) (some x) (some z) (z :: xs) q none := by
      simp only [Intrusive.pushFront, setNext_self]
      exact s2.congr fun y hy => setPrev_of_ne _ _ (by rintro rfl; exact fresh hy)
    refine ⟨q, rfl, ?_, ?_⟩
    · simp [Intrusive.pushFront]
    · have : (Intrusive.pushFront L (some z) x x).next = some z := by
        simp [Intrusive.pushFront]
      rw [this]
      exact s3

/-- Walking from a head for at most `k` items. -/
def walk (L : α → Link α) : Nat → Option α → List α
  | 0, _ => []
  | _ + 1, none => []
  | k + 1, some x => x :: walk L k (L x).next

omit [DecidableEq α] in
theorem Seg.walk {L : α → Link α} {xs : List α} {p h q : Option α} (s : Seg L p h xs q none)
    {k : Nat} (bound : xs.length ≤ k) : walk L k h = xs := by
  induction xs generalizing p h k with
  | nil =>
    obtain ⟨rfl, -⟩ := s
    cases k <;> rfl
  | cons x xs ih =>
    obtain ⟨rfl, -, s⟩ := s
    cases k with
    | zero => simp at bound
    | succ k =>
      simp only [Intrusive.walk]
      rw [ih s (by simpa using bound)]

omit [DecidableEq α] in
/-- A walk with enough steps visits the whole list. -/
theorem Chain.walk {L : α → Link α} {xs : List α} {h : Option α} (c : Chain L h xs)
    {k : Nat} (bound : xs.length ≤ k) : walk L k h = xs :=
  c.elim fun _ s => s.walk bound

/-! ## Chains read off the link fields -/

/-- Following `next` from a pointer visits the items and then meets NULL. -/
inductive Visits (L : α → Link α) : Option α → List α → Prop
  | stop : Visits L none []
  | go {x : α} {xs : List α} : Visits L (L x).next xs → Visits L (some x) (x :: xs)

/-- The list of a head pointer is finite, visits no item twice, does not lead into another list,
and its two link fields are inverse to each other. -/
structure WellLinked (L : α → Link α) (h : Option α) (xs : List α) : Prop where
  visits : Visits L h xs
  acyclic : xs.Nodup
  first : ∀ x, h = some x → (L x).prev = none
  next_prev : ∀ x ∈ xs, ∀ y, (L x).next = some y → y ∈ xs ∧ (L y).prev = some x
  prev_next : ∀ x ∈ xs, ∀ y, (L x).prev = some y → y ∈ xs ∧ (L y).next = some x

omit [DecidableEq α] in
theorem Seg.visits {L : α → Link α} {xs : List α} {p h q : Option α} (s : Seg L p h xs q none) :
    Visits L h xs := by
  induction xs generalizing p h with
  | nil =>
    obtain ⟨rfl, -⟩ := s
    exact .stop
  | cons x xs ih =>
    obtain ⟨rfl, -, s⟩ := s
    exact .go (ih s)

omit [DecidableEq α] in
theorem Chain.wellLinked {L : α → Link α} {xs : List α} {h : Option α} (c : Chain L h xs)
    (nodup : xs.Nodup) : WellLinked L h xs := by
  refine ⟨c.elim fun _ s => s.visits, nodup, ?_, ?_, ?_⟩
  · intro x hx
    have head := c.head
    cases xs with
    | nil => cases hx.symm.trans head
    | cons y xs =>
      obtain rfl := Option.some.inj (hx.symm.trans head)
      exact (Chain.links (l := []) c).1
  · intro x mem y next
    obtain ⟨l, r, rfl⟩ := List.append_of_mem mem
    rw [c.links.2] at next
    obtain ⟨r', rfl⟩ : ∃ r', r = y :: r' := List.head?_eq_some_iff.1 next
    refine ⟨by simp, ?_⟩
    have shifted : Chain L h ((l ++ [x]) ++ y :: r') := by simpa using c
    simpa using shifted.links.1
  · intro x mem y prev
    obtain ⟨l, r, rfl⟩ := List.append_of_mem mem
    rw [c.links.1] at prev
    obtain ⟨l', rfl⟩ : ∃ l', l = l' ++ [y] := List.getLast?_eq_some_iff.1 prev
    refine ⟨by simp, ?_⟩
    have shifted : Chain L h (l' ++ y :: (x :: r)) := by simpa using c
    simpa using shifted.links.2

end Intrusive
