import RmwMicroxrcedds.Spec.ConcurrentBuffers
import RmwMicroxrcedds.Base.Accounts

/-!
# What becomes of a message when threads share the buffers

A message is named by the callback call that stored it. Whatever the schedule, it lies in one buffer until one
call ends it: a take that hands it out, a cleaning, or a callback that needs its buffer. Takes on one entity hand
its messages out in the order of their reception as long as the clock ticks between receptions.
-/

namespace RmwMicroxrcedds.Concurrent
set_option autoImplicit false
open Threads Threads.Code
open Accounts (Balanced)

variable {Tid : Type} [DecidableEq Tid]

/-! ## The books -/

/-- The buffers, the messages they hold, the messages stored so far, and those that have ended, each with the
call that ended it. -/
structure Account where
  buf : Buffers
  message : Nat → Nat
  stored : List Nat
  ended : List (Nat × Nat)

/-- The buffer that a call fills. -/
def filled? (op : BufferOp) (b : Buffers) : Option Nat :=
  match buffers.result op b with
  | .received filled => filled
  | _ => none

/-- The buffers in use that a call releases or fills anew. -/
def endedBy (op : BufferOp) (b : Buffers) : List Nat :=
  b.queue.filter fun i => i ∉ (buffers.next op b).queue ∨ filled? op b = some i

/-- The books after a call with the number `call.1`. -/
def Account.next (a : Account) (call : Nat × BufferOp) : Account where
  buf := buffers.next call.2 a.buf
  message := match filled? call.2 a.buf with
    | some i => setAt a.message i call.1
    | none => a.message
  stored := match filled? call.2 a.buf with
    | some _ => call.1 :: a.stored
    | none => a.stored
  ended := (endedBy call.2 a.buf).map (fun i => (a.message i, call.1)) ++ a.ended

/-- The books after calls one after another, the last one first. -/
def account (size : Nat) : List (Nat × BufferOp) → Account
  | [] => ⟨initial size, fun _ => 0, [], []⟩
  | call :: before => (account size before).next call

@[simp] theorem account_buf (size : Nat) (order : List (Nat × BufferOp)) :
    (account size order).buf = replay buffers (initial size) order := by
  induction order with
  | nil => rfl
  | cons call before ih =>
    show buffers.next call.2 (account size before).buf = _
    rw [ih]
    rfl

section Steps

variable {b : Buffers} {n : Nat}

/-- A call that fills no buffer only releases some. -/
inductive Effect (b : Buffers) : BufferOp → Buffers → Option Nat → Prop
  | releases {op : BufferOp} {b' : Buffers} (kept : Nat → Bool) (queue : b'.queue = b.queue.filter kept)
      (slot : ∀ i ∈ b'.queue, b'.slot i = b.slot i) : Effect b op b' none
  | fills {v : Outside} {o : Owner} {ev : SessionEvent} {b' : Buffers} (i : Nat)
      (read : ev.length ≤ ev.bytes.length) (queue : b'.queue = if i ∈ b.queue then b.queue else i :: b.queue)
      (slot : b'.slot = setAt b.slot i (ev.stored o v.epochNanos (b.slot i))) :
      Effect b (.receive v o ev) b' (some i)

theorem effect (ok : b.Ok n) (op : BufferOp) : Effect b op (buffers.next op b) (filled? op b) := by
  have nodup : b.queue.Nodup := Slots.Ok.nodup ok
  have erased : ∀ i, b.queue.erase i = b.queue.filter (· != i) := fun i => nodup.erase_eq_filter i
  cases op with
  | receive v o ev =>
    obtain ⟨-, -, -, reception⟩ := receive_spec (w := v.world b) ok o (v.ent.qos o) ev
    show Effect b _ (receive (v.world b) o (v.ent.qos o) o.entityType ev.related ev.bytes ev.length).1.buf
      (receive (v.world b) o (v.ent.qos o) o.entityType ev.related ev.bytes ev.length).2
    generalize receive (v.world b) o (v.ent.qos o) o.entityType ev.related ev.bytes ev.length = r at reception ⊢
    obtain ⟨w, filled⟩ := r
    cases reception with
    | refused why same =>
      have same' : w.buf = b := same
      refine .releases (fun _ => true) ?_ ?_
      · rw [same', List.filter_true]
      · exact fun i _ => by rw [same']
    | unread i grant short queue slot =>
      refine .releases (· != i) (queue.trans (erased i)) fun j hj => slot j ?_
      have hj' : j ∈ b.queue.erase i := queue ▸ hj
      exact (nodup.mem_erase_iff.1 hj').1
    | stored i grant read queue slot => exact .fills i read queue slot
  | clean v =>
    obtain ⟨-, queue, slot⟩ := clean_buffers ok v
    exact .releases _ queue fun i _ => congrFun slot i
  | take owner header cdrDeserialize =>
    obtain ⟨-, slot, ⟨-, -, same⟩ | ⟨i, -, -, -, -, -, queue⟩⟩ := take_buffers ok owner header cdrDeserialize
    · refine .releases (fun _ => true) ?_ fun i _ => congrFun slot i
      rw [List.filter_true]
      exact congrArg Buffers.queue same
    · exact .releases (· != i) (queue.trans (erased i)) fun i _ => congrFun slot i
  | find owner => exact .releases (fun _ => true) (List.filter_true _).symm fun _ _ => rfl

end Steps

section Next

variable {a : Account} {n : Nat} {op : BufferOp} {b' : Buffers} {i : Nat}

/-- The books after a call that only releases buffers. -/
theorem Account.next_releases (next : buffers.next op a.buf = b') (filled : filled? op a.buf = none)
    {kept : Nat → Bool} (queue : b'.queue = a.buf.queue.filter kept) : a.next (n, op) =
      ⟨b', a.message, a.stored, (a.buf.queue.filter fun i => !kept i).map (fun i => (a.message i, n)) ++ a.ended⟩ := by
  have gone : endedBy op a.buf = a.buf.queue.filter fun i => !kept i := by
    rw [endedBy, filled, next]
    refine List.filter_congr fun i hi => ?_
    rw [queue]
    simp [hi]
  rw [Account.next, filled, gone, next]

/-- The books after a call that fills a buffer. -/
theorem Account.next_fills (nodup : a.buf.queue.Nodup) (next : buffers.next op a.buf = b')
    (filled : filled? op a.buf = some i)
    (queue : b'.queue = if i ∈ a.buf.queue then a.buf.queue else i :: a.buf.queue) : a.next (n, op) =
      ⟨b', setAt a.message i n, n :: a.stored,
        if i ∈ a.buf.queue then (a.message i, n) :: a.ended else a.ended⟩ := by
  have gone : endedBy op a.buf = if i ∈ a.buf.queue then [i] else [] := by
    rw [endedBy, filled, next, queue]
    split
    · rename_i used
      have same : (a.buf.queue.filter fun j => j ∉ a.buf.queue ∨ some i = some j) =
          a.buf.queue.filter (· == i) := by
        refine List.filter_congr fun j hj => ?_
        rw [Bool.eq_iff_iff]
        simp only [hj, not_true_eq_false, false_or, Option.some.injEq, decide_eq_true_eq, beq_iff_eq]
        exact eq_comm
      rw [same, List.filter_beq, List.count_eq_one_of_mem nodup used]
      rfl
    · rename_i unused
      refine List.filter_eq_nil_iff.2 fun j hj => ?_
      have ne : i ≠ j := by
        rintro rfl
        exact unused hj
      simp [hj, ne]
  rw [Account.next, filled, gone, next]
  dsimp only
  by_cases used : i ∈ a.buf.queue
  · rw [if_pos used, if_pos used]
    rfl
  · rw [if_neg used, if_neg used]
    rfl

end Next

/-- The invariant of the books: the buffers in use hold samples of earlier calls, and nothing is lost. -/
structure Books (size : Nat) (order : List (Nat × BufferOp)) (a : Account) : Prop where
  ok : a.buf.Ok size
  balanced : Balanced a.stored a.buf.queue a.message (a.ended.map Prod.fst)
  called : a.stored.Sublist (order.map Prod.fst)
  holds : ∀ i ∈ a.buf.queue, ∃ v o ev d, (a.message i, .receive v o ev) ∈ order ∧
    ev.length ≤ ev.bytes.length ∧ a.buf.slot i = ev.stored o v.epochNanos d

theorem Books.start (size : Nat) : Books size [] (account size []) := by
  have queue : (initial size).queue = [] := (Slots.Ok.init (Slots.zero_ok size)).2.1
  refine ⟨initial_ok size, ?_, .slnil, fun i hi => ?_⟩
  · show Balanced [] (initial size).queue _ _
    rw [queue]
    exact .refl _
  · have hi' : i ∈ (initial size).queue := hi
    rw [queue] at hi'
    cases hi'

/-- Every call keeps the books. -/
theorem Books.next {size : Nat} {before : List (Nat × BufferOp)} {a : Account} (h : Books size before a)
    (n : Nat) (op : BufferOp) : Books size ((n, op) :: before) (a.next (n, op)) := by
  have nodup : a.buf.queue.Nodup := Slots.Ok.nodup h.ok
  have ok' : (buffers.next op a.buf).Ok size := buffers_ok h.ok op
  have happened := effect h.ok op
  generalize next : buffers.next op a.buf = b' at ok' happened
  generalize filled : filled? op a.buf = item at happened
  cases happened with
  | releases kept queue slot =>
    rw [Account.next_releases next filled queue]
    constructor
    · exact ok'
    · dsimp only
      rw [List.map_append, List.map_map, queue]
      exact h.balanced.discard kept
    · exact h.called.cons _
    · intro i hi
      have old : i ∈ a.buf.queue := by
        rw [queue] at hi
        exact (List.mem_filter.1 hi).1
      obtain ⟨v, o, ev, d, mem, read, content⟩ := h.holds i old
      exact ⟨v, o, ev, d, List.mem_cons_of_mem _ mem, read, (slot i hi).trans content⟩
  | @fills v o ev _ i read queue slot =>
    have others : ∀ j, j ≠ i → setAt a.message i n j = a.message j := fun j ne => setAt_of_ne _ _ ne
    rw [Account.next_fills nodup next filled queue]
    constructor
    · exact ok'
    · dsimp only
      rw [queue]
      by_cases used : i ∈ a.buf.queue
      · rw [if_pos used, if_pos used]
        exact h.balanced.replace nodup used (setAt_self _ _ _) others
      · rw [if_neg used, if_neg used]
        exact h.balanced.enter (setAt_self _ _ _) fun j hj => others j (by rintro rfl; exact used hj)
    · exact h.called.cons_cons _
    · intro j hj
      dsimp only at hj ⊢
      by_cases e : j = i
      · subst e
        refine ⟨v, o, ev, a.buf.slot j, ?_, read, ?_⟩
        · rw [setAt_self]
          exact List.mem_cons_self
        · rw [slot, setAt_self]
      · have old : j ∈ a.buf.queue := by
          rw [queue] at hj
          split at hj
          · exact hj
          · exact (List.mem_cons.1 hj).resolve_left e
        obtain ⟨v', o', ev', d, mem, read', content⟩ := h.holds j old
        refine ⟨v', o', ev', d, ?_, read', ?_⟩
        · rw [others j e]
          exact List.mem_cons_of_mem _ mem
        · rw [slot, setAt_of_ne _ _ e]
          exact content

theorem books (size : Nat) (order : List (Nat × BufferOp)) : Books size order (account size order) := by
  induction order with
  | nil => exact .start size
  | cons call before ih => exact ih.next call.1 call.2

/-- What has ended has ended. -/
theorem ended_later {size : Nat} {e : Nat × Nat} (after before : List (Nat × BufferOp))
    (mem : e ∈ (account size before).ended) : e ∈ (account size (after ++ before)).ended := by
  induction after with
  | nil => exact mem
  | cons call after ih => exact List.mem_append_right _ ih

/-- The sample that a take hands out is one that a callback stored for the entity, complete, and the take ends
it. -/
theorem take_message (size : Nat) (before : List (Nat × BufferOp)) (n : Nat) (owner : Option Owner)
    (header : Related → TakeHeader) (cdrDeserialize : List UInt8 → Bool) {i : Nat}
    (found : rmwUxrceFindStaticInputBufferByOwner (account size before).buf owner = some i) :
    let call := (n, BufferOp.take owner header cdrDeserialize)
    ∃ v o ev, (((account size before).message i, n) ∈ (account size (call :: before)).ended ∧
      ((account size before).message i, .receive v o ev) ∈ before ∧ owner = some o ∧
      (takeFound (account size before).buf owner header cdrDeserialize).1.payload =
        some (ev.bytes.take ev.length) ∧
      ∀ related, ev.related = some related →
        (takeFound (account size before).buf owner header cdrDeserialize).1.header = header related) := by
  intro call
  have h := books size before
  generalize ha : account size before = a at h found
  have nodup : a.buf.queue.Nodup := Slots.Ok.nodup h.ok
  obtain ⟨-, -, ⟨none, -⟩ | ⟨j, found', queued, own, payload, head, queue⟩⟩ :=
    take_buffers h.ok owner header cdrDeserialize
  · exact absurd (none.symm.trans found) (by simp)
  · obtain rfl := Option.some.inj (found.symm.trans found')
    obtain ⟨v, o, ev, d, mem, read, content⟩ := h.holds i queued
    refine ⟨v, o, ev, ?_, mem, ?_, ?_, ?_⟩
    · have after : account size (call :: before) = a.next call := by rw [← ha]; rfl
      rw [after]
      apply List.mem_append_left
      apply List.mem_map.2
      refine ⟨i, List.mem_filter.2 ⟨queued, ?_⟩, rfl⟩
      have next : (buffers.next call.2 a.buf).queue = a.buf.queue.erase i := queue
      rw [next]
      simp [nodup.not_mem_erase]
    · rw [content] at own
      exact own.symm
    · rw [payload, content, SessionEvent.stored_payload ev o _ d read]
    · intro related e
      rw [head, content]
      show header (ev.related.getD d.related) = _
      rw [e]
      rfl

/-! ## Every schedule -/

/-- **Each message once, whatever the schedule.** A message that a call has stored lies in a buffer, in one
only, or has been ended by one call, and not both. What a take hands out is, complete, the message of an earlier
callback for the entity, and it is this take that ends it: no other one hands it out. -/
theorem messages_once (size : Nat) (is : List (Tid × BufferOp)) :
    let s := threads size is
    let order := entries bufferProgram () s.events
    let a := account size order
    (∀ k, k ∈ a.stored ↔ (∃ i ∈ a.buf.queue, a.message i = k) ∨ ∃ n, (k, n) ∈ a.ended) ∧
      (a.buf.queue.map a.message).Nodup ∧ (a.ended.map Prod.fst).Nodup ∧
      (∀ i ∈ a.buf.queue, ∀ n, (a.message i, n) ∉ a.ended) ∧
      (s.Quiet bufferProgram () → s.memory () = a.buf) ∧
      ∀ n t owner header cdrDeserialize r held,
        .returned n t (.take owner header cdrDeserialize) (.took r) held ∈ s.events → r.payload ≠ none →
        ∃ k v o ev, (k, n) ∈ a.ended ∧
          [(n, .take owner header cdrDeserialize), (k, .receive v o ev)].Sublist order ∧ owner = some o ∧
          r.payload = some (ev.bytes.take ev.length) ∧
          ∀ related, ev.related = some related → r.header = header related := by
  intro s order a
  obtain ⟨lin, settled, -⟩ := buffers_linearizable size is
  have h : Books size order a := books size order
  have stored : a.stored.Nodup := lin.once.sublist h.called
  have perm : a.stored.Perm (a.buf.queue.map a.message ++ a.ended.map Prod.fst) := h.balanced
  obtain ⟨buffered, ended, apart⟩ := List.nodup_append.1 (perm.nodup_iff.1 stored)
  refine ⟨fun k => ?_, buffered, ended, fun i hi n mem => ?_, fun quiet => ?_, ?_⟩
  · rw [perm.mem_iff, List.mem_append]
    simp only [List.mem_map, Prod.exists, exists_and_right, exists_eq_right]
  · exact apart _ (List.mem_map_of_mem hi) _ (List.mem_map_of_mem (f := Prod.fst) mem) rfl
  · rw [settled quiet, account_buf]
  · intro n t owner header cdrDeserialize r held returned some
    obtain ⟨after, before, split, result, -⟩ := lin.results n t _ _ held returned rfl
    have split' : order = after ++ (n, .take owner header cdrDeserialize) :: before := split
    rw [← account_buf] at result
    have took : r = (takeFound (account size before).buf owner header cdrDeserialize).1 :=
      BufferResult.took.inj result
    cases found : rmwUxrceFindStaticInputBufferByOwner (account size before).buf owner with
    | none =>
      rw [took, takeFound, found] at some
      exact absurd rfl some
    | some i =>
      obtain ⟨v, o, ev, ends, mem, own, payload, head⟩ :=
        take_message size before n owner header cdrDeserialize found
      rw [took]
      refine ⟨(account size before).message i, v, o, ev, ?_, ?_, own, payload, head⟩
      · have later := ended_later after _ ends
        rwa [← split'] at later
      · rw [split']
        apply List.Sublist.trans _ (List.sublist_append_right _ _)
        exact (List.singleton_sublist.2 mem).cons_cons _

/-! ## In turn -/

/-- The clock reading of a callback. -/
def BufferOp.clock? : BufferOp → Option Int
  | .receive v _ _ => some v.epochNanos
  | _ => none

/-- Each reception reads a later time than the one before. -/
def Ticks (order : List (Nat × BufferOp)) : Prop :=
  (order.filterMap fun call => call.2.clock?).Pairwise (· > ·)

instance (order : List (Nat × BufferOp)) : Decidable (Ticks order) := inferInstanceAs (Decidable (List.Pairwise ..))

/-- The messages that takes on an entity have released, the last one first. -/
def handedOut (size : Nat) (o : Owner) : List (Nat × BufferOp) → List Nat
  | [] => []
  | (_, .take owner _ _) :: before =>
    if owner = some o then
      match rmwUxrceFindStaticInputBufferByOwner (account size before).buf (some o) with
      | some i => (account size before).message i :: handedOut size o before
      | none => handedOut size o before
    else handedOut size o before
  | _ :: before => handedOut size o before

/-- The call `k` came after the call `k'`. -/
def Later (order : List (Nat × BufferOp)) (k k' : Nat) : Prop := [k, k'].Sublist (order.map Prod.fst)

instance (order : List (Nat × BufferOp)) (k k' : Nat) : Decidable (Later order k k') :=
  inferInstanceAs (Decidable (List.Sublist ..))

/-- Of two members of a list one comes first. -/
theorem pair_sublist {α : Type} {l : List α} {a b : α} (ha : a ∈ l) (hb : b ∈ l) (ne : a ≠ b) :
    [a, b].Sublist l ∨ [b, a].Sublist l := by
  induction l with
  | nil => cases ha
  | cons c l ih =>
    rcases List.mem_cons.1 ha with rfl | ha'
    · have hb' := (List.mem_cons.1 hb).resolve_left ne.symm
      exact .inl ((List.singleton_sublist.2 hb').cons_cons _)
    · rcases List.mem_cons.1 hb with rfl | hb'
      · exact .inr ((List.singleton_sublist.2 ha').cons_cons _)
      · exact (ih ha' hb').imp (·.cons _) (·.cons _)

section Turn

variable {size : Nat} {order : List (Nat × BufferOp)} {a : Account}

theorem Books.message_inj (h : Books size order a) (once : (order.map Prod.fst).Nodup) {i j : Nat}
    (hi : i ∈ a.buf.queue) (hj : j ∈ a.buf.queue) (same : a.message i = a.message j) : i = j := by
  have perm : a.stored.Perm (a.buf.queue.map a.message ++ a.ended.map Prod.fst) := h.balanced
  have stored : a.stored.Nodup := once.sublist h.called
  have buffered := (List.nodup_append.1 (perm.nodup_iff.1 stored)).1
  exact List.inj_on_of_nodup_map buffered hi hj same

/-- With a clock that ticks, a buffer with a later timestamp holds a message that came later. -/
theorem Books.later (h : Books size order a) (once : (order.map Prod.fst).Nodup) (ticks : Ticks order) {i j : Nat}
    (hi : i ∈ a.buf.queue) (hj : j ∈ a.buf.queue) (ne : j ≠ i)
    (le : (a.buf.slot i).timestamp ≤ (a.buf.slot j).timestamp) : Later order (a.message j) (a.message i) := by
  obtain ⟨v, o, ev, d, mem, -, content⟩ := h.holds i hi
  obtain ⟨v', o', ev', d', mem', -, content'⟩ := h.holds j hj
  have stamps : v.epochNanos ≤ v'.epochNanos := by
    rw [content, content'] at le
    exact le
  have apart : (a.message j, BufferOp.receive v' o' ev') ≠ (a.message i, .receive v o ev) := fun e =>
    ne (h.message_inj once hj hi (congrArg Prod.fst e))
  rcases pair_sublist mem' mem apart with after | before
  · exact after.map Prod.fst
  · have readings : [v.epochNanos, v'.epochNanos].Sublist (order.filterMap fun call => call.2.clock?) :=
      List.Sublist.filterMap (fun call : Nat × BufferOp => call.2.clock?) before
    have clocks : List.Pairwise (· > ·) [v.epochNanos, v'.epochNanos] := List.Pairwise.sublist readings ticks
    have less : v.epochNanos > v'.epochNanos := by simpa using clocks
    omega

end Turn

/-- What takes on an entity have released came before what it has buffered, and in turn. -/
structure InTurn (size : Nat) (o : Owner) (order : List (Nat × BufferOp)) : Prop where
  called : ∀ k ∈ handedOut size o order, k ∈ order.map Prod.fst
  sorted : (handedOut size o order).Pairwise (Later order)
  below : ∀ k ∈ handedOut size o order, ∀ i ∈ (account size order).buf.ofOwner o,
    Later order ((account size order).message i) k

section InTurn

variable {size : Nat} {o : Owner} {before : List (Nat × BufferOp)} {n : Nat} {op : BufferOp}

theorem Later.cons {call : Nat × BufferOp} {k k' : Nat} (h : Later before k k') : Later (call :: before) k k' :=
  List.Sublist.cons _ h

/-- A call that releases no more to takes on the entity. -/
theorem InTurn.keep (h : InTurn size o before) (same : handedOut size o ((n, op) :: before) = handedOut size o before)
    (below : ∀ i ∈ (account size ((n, op) :: before)).buf.ofOwner o,
      (account size ((n, op) :: before)).message i = n ∨ i ∈ (account size before).buf.ofOwner o ∧
        (account size ((n, op) :: before)).message i = (account size before).message i) :
    InTurn size o ((n, op) :: before) := by
  constructor
  · rw [same]
    exact fun k hk => List.mem_cons_of_mem _ (h.called k hk)
  · rw [same]
    exact h.sorted.imp fun later => later.cons
  · rw [same]
    intro k hk i hi
    rcases below i hi with new | ⟨old, message⟩
    · rw [new]
      exact (List.singleton_sublist.2 (h.called k hk)).cons_cons _
    · rw [message]
      exact (h.below k hk i old).cons

/-- What is buffered for an entity after a call is new or was buffered for it before. -/
theorem account_below (size : Nat) (o : Owner) (before : List (Nat × BufferOp)) (n : Nat) (op : BufferOp) :
    ∀ i ∈ (account size ((n, op) :: before)).buf.ofOwner o,
      (account size ((n, op) :: before)).message i = n ∨ i ∈ (account size before).buf.ofOwner o ∧
        (account size ((n, op) :: before)).message i = (account size before).message i := by
  intro i hi
  have h := books size before
  have after : account size ((n, op) :: before) = (account size before).next (n, op) := rfl
  rw [after] at hi ⊢
  generalize account size before = a at h hi
  have nodup : a.buf.queue.Nodup := Slots.Ok.nodup h.ok
  obtain ⟨queued, own⟩ := Buffers.mem_ofOwner.1 hi
  have happened := effect h.ok op
  generalize next : buffers.next op a.buf = b' at happened
  generalize filled : filled? op a.buf = item at happened
  cases happened with
  | releases kept queue slot =>
    rw [Account.next_releases next filled queue] at queued own ⊢
    dsimp only at queued own ⊢
    have content := slot i queued
    rw [queue] at queued
    exact .inr ⟨Buffers.mem_ofOwner.2 ⟨(List.mem_filter.1 queued).1, content ▸ own⟩, rfl⟩
  | @fills v o' ev _ j read queue slot =>
    rw [Account.next_fills nodup next filled queue] at queued own ⊢
    dsimp only at queued own ⊢
    by_cases e : i = j
    · rw [e, setAt_self]
      exact .inl rfl
    · rw [setAt_of_ne _ _ e]
      have old : i ∈ a.buf.queue := by
        rw [queue] at queued
        split at queued
        · exact queued
        · exact (List.mem_cons.1 queued).resolve_left e
      rw [slot, setAt_of_ne _ _ e] at own
      exact .inr ⟨Buffers.mem_ofOwner.2 ⟨old, own⟩, rfl⟩

/-- A take on the entity releases the message whose turn it is. -/
theorem InTurn.take (h : InTurn size o before) (once : (before.map Prod.fst).Nodup) (ticks : Ticks before)
    (header : Related → TakeHeader) (cdrDeserialize : List UInt8 → Bool) :
    InTurn size o ((n, .take (some o) header cdrDeserialize) :: before) := by
  have rest := account_below size o before n (.take (some o) header cdrDeserialize)
  have b := books size before
  have nodup : (account size before).buf.queue.Nodup := Slots.Ok.nodup b.ok
  cases found : rmwUxrceFindStaticInputBufferByOwner (account size before).buf (some o) with
  | none =>
    apply h.keep _ rest
    rw [handedOut, if_pos rfl, found]
  | some i =>
    have gives : handedOut size o ((n, .take (some o) header cdrDeserialize) :: before) =
        (account size before).message i :: handedOut size o before := by
      rw [handedOut, if_pos rfl, found]
    obtain ⟨front, back, oldest, -⟩ := Buffers.Ok.find_some b.ok found
    have own : i ∈ (account size before).buf.ofOwner o := Buffers.mem_ofOwner.2 ⟨oldest.mem, oldest.relevant⟩
    obtain ⟨v, o', ev, d, mem, -⟩ := b.holds i oldest.mem
    have queue : (account size ((n, .take (some o) header cdrDeserialize) :: before)).buf.queue =
        (account size before).buf.queue.erase i := by
      obtain ⟨-, -, ⟨none, -⟩ | ⟨j, found', -, -, -, -, queue⟩⟩ := take_buffers b.ok (some o) header cdrDeserialize
      · exact absurd (none.symm.trans found) (by simp)
      · obtain rfl := Option.some.inj (found.symm.trans found')
        exact queue
    have message : (account size ((n, .take (some o) header cdrDeserialize) :: before)).message =
        (account size before).message := rfl
    constructor
    · rw [gives]
      intro k hk
      apply List.mem_cons_of_mem
      rcases List.mem_cons.1 hk with rfl | old
      · exact List.mem_map_of_mem (f := Prod.fst) mem
      · exact h.called k old
    · rw [gives, List.pairwise_cons]
      exact ⟨fun k hk => (h.below k hk i own).cons, h.sorted.imp fun later => later.cons⟩
    · rw [gives, message]
      intro k hk j hj
      have kept := (Buffers.mem_ofOwner.1 hj).1
      rw [queue] at kept
      obtain ⟨ne, queued⟩ := nodup.mem_erase_iff.1 kept
      have slot : (account size ((n, .take (some o) header cdrDeserialize) :: before)).buf.slot =
          (account size before).buf.slot := (take_buffers b.ok (some o) header cdrDeserialize).2.1
      have own' : j ∈ (account size before).buf.ofOwner o := by
        refine Buffers.mem_ofOwner.2 ⟨queued, ?_⟩
        rw [← slot]
        exact (Buffers.mem_ofOwner.1 hj).2
      rcases List.mem_cons.1 hk with rfl | old
      · have le := oldest.le queued (Buffers.mem_ofOwner.1 own').2
        exact (b.later once ticks oldest.mem queued ne le).cons
      · exact (h.below k old j own').cons

end InTurn

theorem inTurn (size : Nat) (o : Owner) {order : List (Nat × BufferOp)} (once : (order.map Prod.fst).Nodup)
    (ticks : Ticks order) : InTurn size o order := by
  induction order with
  | nil => exact ⟨fun _ hk => absurd hk List.not_mem_nil, .nil, fun _ hk => absurd hk List.not_mem_nil⟩
  | cons call before ih =>
    obtain ⟨n, op⟩ := call
    have once' : (before.map Prod.fst).Nodup := (List.nodup_cons.1 once).2
    have ticks' : Ticks before := ticks.sublist ((List.sublist_cons_self _ _).filterMap _)
    have h := ih once' ticks'
    have rest := account_below size o before n op
    cases op with
    | take owner header cdrDeserialize =>
      by_cases own : owner = some o
      · subst own
        exact h.take once' ticks' header cdrDeserialize
      · apply h.keep _ rest
        rw [handedOut, if_neg own]
    | receive | clean | find => exact h.keep rfl rest

/-- **Messages are handed out in turn, whatever the schedule**, when the clock ticks from one reception to the
next: a message that a take on an entity has released was received before every one that a later take on it has
released. -/
theorem messages_in_turn (size : Nat) (is : List (Tid × BufferOp)) (o : Owner)
    (ticks : Ticks (entries bufferProgram () (threads size is).events)) :
    let order := entries bufferProgram () (threads size is).events
    (handedOut size o order).Pairwise (Later order) :=
  (inTurn size o (buffers_linearizable size is).1.once ticks).sorted

/-- One session, and what the clock says. -/
abbrev atTime (nanos : Int) : Outside where
  ent := { Entities.zero with
    session := { Slots.zero with memory := { Mempool.zero with allocateditems := some 0, size := 1 } } }
  uxrNanos := nanos

abbrev arrives (nanos : Int) (payload : List UInt8) : BufferOp :=
  .receive (atTime nanos) (.subscription 0) (.topic default payload payload.length)

abbrev takes : BufferOp := .take (some (.subscription 0)) (fun _ => .untouched) fun _ => true

/-- Two threads receive at the same time, and take at the same time. -/
def twoThreads : List (Bool × BufferOp) :=
  [(true, arrives 1 [7]), (false, arrives 2 [8]), (true, arrives 1 [7]), (false, arrives 2 [8])] ++
    List.replicate 30 (true, arrives 1 [7]) ++ List.replicate 36 (false, takes) ++ [(true, takes)] ++
    List.replicate 30 (false, takes) ++ List.replicate 3 (true, takes)

theorem messages_in_turn_overlap :
    let order := entries bufferProgram () (threads 2 twoThreads).events
    handedOut 2 (.subscription 0) order = [1, 0] ∧
      (handedOut 2 (.subscription 0) order).Pairwise (Later order) :=
  ⟨by decide +kernel, messages_in_turn 2 twoThreads (.subscription 0) (by decide +kernel)⟩

end RmwMicroxrcedds.Concurrent
