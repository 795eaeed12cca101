import RmwMicroxrcedds.Base.Selection
import RmwMicroxrcedds.Proof.Queues
import RmwMicroxrcedds.Spec.ExactExpiry

/-!
# Taking a sequence

`rmw_take_sequence` repeats the single take, which selects the oldest message, until it has as many
messages as asked for or a take fails. The messages it hands out are the oldest of the queue in any
case. The code it returns is that of the last take: a call that asks for more than there is reports an
error after it has emptied the queue.
-/

namespace RmwMicroxrcedds
set_option autoImplicit false

variable {cfg : Config}

/-- What a take presents to the type support. -/
def StaticInputBuffer.payload (d : StaticInputBuffer) : List UInt8 := d.buffer.take d.length

/-- No message of the entity is past its deadline. -/
def State.Lasting (s : State) (o : Owner) : Prop :=
  ∀ j ∈ s.w.buf.ofOwner o, ¬ s.PastDeadline (rmwUrosEpochNanos s.w) j

instance (s : State) (o : Owner) : Decidable (s.Lasting o) :=
  inferInstanceAs (Decidable (∀ j ∈ s.w.buf.ofOwner o, _))

/-- The deadlines of the messages that last can be represented. -/
def State.LastingFit (s : State) : Prop :=
  ∀ j ∈ s.queue, ∀ o ∈ (s.slot j).owner, s.Lasting o → s.DeadlineFits (rmwUrosEpochNanos s.w) j

instance (s : State) : Decidable s.LastingFit :=
  inferInstanceAs (Decidable (∀ j ∈ s.queue, ∀ o ∈ (s.slot j).owner, _))

/-- The cleaning leaves every message of the entity. -/
def State.Spared (s : State) (o : Owner) : Prop :=
  ∀ j ∈ s.w.buf.ofOwner o, ¬ expired s.w.ent (rmwUrosEpochNanos s.w) (s.slot j)

/-- The messages `xs` of an entity have left its queue, and nothing else has changed but for the
cleaning of what is expired. -/
structure TakenOut (cfg : Config) (o : Owner) (xs : List Nat) (s t : State) : Prop where
  wf : Wf cfg t
  ent : t.w.ent = s.w.ent
  nanos : t.w.uxrNanos = s.w.uxrNanos
  slot : t.slot = s.slot
  ghost : t.ghost = s.ghost
  own : t.w.buf.ofOwner o = (s.w.buf.ofOwner o).filter (· ∉ xs)
  others : ∀ p, p ≠ o → s.Spared p → t.w.buf.ofOwner p = s.w.buf.ofOwner p

section Takes

variable {s t u : State} {o p : Owner} {xs ys : List Nat}

theorem TakenOut.reading (h : TakenOut cfg o xs s t) :
    rmwUrosEpochNanos t.w = rmwUrosEpochNanos s.w := by
  rw [rmwUrosEpochNanos, h.ent, h.nanos]
  rfl

theorem TakenOut.unexpired (h : TakenOut cfg o xs s t) (sub : t.w.buf.ofOwner p ⊆ s.w.buf.ofOwner p)
    (fresh : s.Spared p) : t.Spared p := by
  intro j hj
  rw [h.ent, h.reading, h.slot]
  exact fresh j (sub hj)

theorem TakenOut.own_subset (h : TakenOut cfg o xs s t) : t.w.buf.ofOwner o ⊆ s.w.buf.ofOwner o := by
  rw [h.own]
  exact List.filter_subset_self _

theorem TakenOut.trans (h : TakenOut cfg o xs s t) (h' : TakenOut cfg o ys t u) :
    TakenOut cfg o (xs ++ ys) s u where
  wf := h'.wf
  ent := h'.ent.trans h.ent
  nanos := h'.nanos.trans h.nanos
  slot := h'.slot.trans h.slot
  ghost := h'.ghost.trans h.ghost
  own := by
    rw [h'.own, h.own, List.filter_filter]
    apply List.filter_congr
    intro j hj
    by_cases taken : j ∈ xs
    · simp [taken]
    · simp [taken]
  others p ne fresh := by
    have same := h.others p ne fresh
    have fresh' : t.Spared p := h.unexpired (same ▸ List.Subset.refl _) fresh
    exact (h'.others p ne fresh').trans same

/-- The cleaning, as far as unexpired messages go. -/
theorem Cleaned.ofOwner (h : Cleaned (rmwUrosEpochNanos s.w) s t) (fresh : s.Spared p) :
    t.w.buf.ofOwner p = s.w.buf.ofOwner p := by
  have queue : t.w.buf.queue = s.w.buf.queue.filter
      fun i => ¬ expired s.w.ent (rmwUrosEpochNanos s.w) (s.slot i) := h.queue
  have slot : t.w.buf.slot = s.w.buf.slot := h.slot
  rw [Buffers.ofOwner, queue, slot, List.filter_filter, Buffers.ofOwner]
  apply List.filter_congr
  intro i hi
  by_cases own : (s.w.buf.slot i).owner = some p
  · have timely := fresh i (Buffers.mem_ofOwner.2 ⟨hi, own⟩)
    simp [own, timely]
  · simp [own]

theorem Cleaned.takenOut (wf : Wf cfg t) (h : Cleaned (rmwUrosEpochNanos s.w) s t)
    (fresh : s.Spared o) : TakenOut cfg o [] s t where
  wf := wf
  ent := h.ent
  nanos := h.nanos
  slot := h.slot
  ghost := h.ghost
  own := by simp [h.ofOwner fresh]
  others p _ fresh' := h.ofOwner fresh'

/-- The oldest message, in the list of those of its entity. -/
theorem Buffers.Oldest.first {b : Buffers} {x : Nat} {before after : List Nat}
    (h : b.Oldest o x before after) :
    ∃ before' after', Earliest.First (fun _ => True) (fun i => (b.slot i).timestamp) (b.ofOwner o) x
      before' after' := by
  let mine := fun i => decide ((b.slot i).owner = some o)
  refine ⟨before.filter mine, after.filter mine, ?_, trivial, ?_, ?_⟩
  · rw [Buffers.ofOwner, h.split, List.filter_append, List.filter_cons_of_pos (by simpa using h.relevant)]
  · intro y hy _
    obtain ⟨mem, own⟩ := List.mem_filter.1 hy
    exact h.before_lt y mem (of_decide_eq_true own)
  · intro y hy _
    obtain ⟨mem, own⟩ := List.mem_filter.1 hy
    exact h.after_le y mem (of_decide_eq_true own)

/-- What a cleaning has left, another one leaves. -/
theorem Cleaned.spared (h : Cleaned (rmwUrosEpochNanos s.w) s t) (o : Owner) : t.Spared o := by
  have reading : rmwUrosEpochNanos t.w = rmwUrosEpochNanos s.w := by
    rw [rmwUrosEpochNanos, rmwUrosEpochNanos, h.ent, h.nanos]
  intro j hj
  have queued : j ∈ s.queue.filter fun i => ¬ expired s.w.ent (rmwUrosEpochNanos s.w) (s.slot i) :=
    h.queue ▸ (Buffers.mem_ofOwner.1 hj).1
  rw [reading, h.ent, h.slot]
  simpa using (List.mem_filter.1 queued).2

/-- A cleaning with nothing to release. -/
theorem clean_of_spared (wf : Wf cfg s)
    (spared : ∀ j ∈ s.queue, ¬ expired s.w.ent (rmwUrosEpochNanos s.w) (s.slot j)) :
    (rmwUxrceCleanExpiredStaticInputBuffer s).2 = s := by
  rw [clean_eq wf.staticBuffer]
  generalize s.queue = l at spared
  induction l with
  | nil => rfl
  | cons j l ih =>
    have stays : cleanItem (rmwUrosEpochNanos s.w) s j = s := by
      rw [cleanItem, Buffers.Ok.data_eq wf.staticBuffer]
      exact if_neg (spared j List.mem_cons_self)
    rw [List.foldl_cons, stays]
    exact ih fun i hi => spared i (List.mem_cons_of_mem j hi)

theorem clean_clean (wf : Wf cfg s) :
    (rmwUxrceCleanExpiredStaticInputBuffer (rmwUxrceCleanExpiredStaticInputBuffer s).2).2 =
      (rmwUxrceCleanExpiredStaticInputBuffer s).2 := by
  obtain ⟨-, wf', cleaned⟩ := clean_spec wf
  refine clean_of_spared wf' fun j hj => ?_
  have reading : rmwUrosEpochNanos (rmwUxrceCleanExpiredStaticInputBuffer s).2.w =
      rmwUrosEpochNanos s.w := by
    rw [rmwUrosEpochNanos, rmwUrosEpochNanos, cleaned.ent, cleaned.nanos]
  rw [cleaned.queue] at hj
  rw [reading, cleaned.ent, cleaned.slot]
  simpa using (List.mem_filter.1 hj).2

/-- A take finds the same after a cleaning of its own. -/
theorem takeWithInfo_clean (wf : Wf cfg s) {i : Nat} (hi : i ∈ s.w.ent.subscription.elements)
    (cdrDeserialize : List UInt8 → Bool) :
    rmwTakeWithInfo i cdrDeserialize s =
      rmwTakeWithInfo i cdrDeserialize (rmwUxrceCleanExpiredStaticInputBuffer s).2 := by
  obtain ⟨-, wf', cleaned⟩ := clean_spec wf
  have take : ∀ {t : State}, Wf cfg t → i ∈ t.w.ent.subscription.elements →
      rmwTakeWithInfo i cdrDeserialize t =
        takeOldest (some (.subscription i)) (fun _ => .untouched) cdrDeserialize t :=
    fun wf hi => takeFrom_run (k := .subscription) wf.subscriptionHandles hi rfl _ _
  rw [take wf hi, take wf' (cleaned.ent ▸ hi), takeOldest, Prog.bind_run]
  refine Eq.trans ?_ (Prog.bind_run _ _ _).symm
  rw [clean_clean wf]

/-- **One take** from a queue of unexpired messages: nothing is there, or the oldest goes. -/
theorem takeWithInfo_cases (wf : Wf cfg s) {i : Nat} (hi : i ∈ s.w.ent.subscription.elements)
    (fresh : s.Spared (.subscription i)) (cdrDeserialize : List UInt8 → Bool) :
    (s.w.buf.ofOwner (.subscription i) = [] ∧ ∃ t, TakenOut cfg (.subscription i) [] s t ∧
      rmwTakeWithInfo i cdrDeserialize s =
        ({ ret := .error, taken := false, payload := none, header := .untouched }, t)) ∨
    ∃ x before after t, Earliest.First (fun _ => True) (fun j => (s.slot j).timestamp)
        (s.w.buf.ofOwner (.subscription i)) x before after ∧
      TakenOut cfg (.subscription i) [x] s t ∧
      t.w.buf.ofOwner (.subscription i) = (s.w.buf.ofOwner (.subscription i)).erase x ∧
      let rv := cdrDeserialize (s.slot x).payload
      rmwTakeWithInfo i cdrDeserialize s =
        ({ ret := if rv then .ok else .error, taken := rv
           payload := some (s.slot x).payload, header := .untouched }, t) := by
  set o := Owner.subscription i
  have take : rmwTakeWithInfo i cdrDeserialize s =
      takeOldest (some o) (fun _ => .untouched) cdrDeserialize s :=
    takeFrom_run (k := .subscription) wf.subscriptionHandles hi rfl _ _
  obtain ⟨-, wf', cleaned⟩ := clean_spec wf
  set c := (rmwUxrceCleanExpiredStaticInputBuffer s).2 with hc
  have clean := cleaned.takenOut wf' fresh
  have own : c.w.buf.ofOwner o = s.w.buf.ofOwner o := cleaned.ofOwner fresh
  rw [take]
  rcases takeOldest_run wf (some o) (fun _ => .untouched) cdrDeserialize with
    ⟨none, run⟩ | ⟨x, found, queued, owner, run⟩
  · left
    refine ⟨?_, c, clean, run⟩
    rw [← own, List.eq_nil_iff_forall_not_mem]
    intro j hj
    have late := (Buffers.Ok.find_none wf'.staticBuffer).1 none j hj
    have stamp := timestamp_lt_of_unexpired (clean.unexpired clean.own_subset fresh j hj)
    exact absurd stamp (not_lt.2 late)
  · right
    obtain ⟨front, back, oldest, -⟩ := Buffers.Ok.find_some wf'.staticBuffer found
    obtain ⟨before, after, first⟩ := oldest.first
    have slot : c.w.buf.slot = s.w.buf.slot := cleaned.slot
    rw [own, slot] at first
    rw [show (rmwUxrceCleanExpiredStaticInputBuffer s).2.slot = s.slot from cleaned.slot] at run
    have erased := Buffers.Ok.putMemory_ofOwner wf'.staticBuffer (o := o) queued
    have nodup : (s.w.buf.ofOwner o).Nodup := (Slots.Ok.nodup wf.staticBuffer).filter _
    have left : (c.w.buf.putMemory x).ofOwner o = (s.w.buf.ofOwner o).erase x := by rw [erased, own]
    refine ⟨x, before, after, _, first, ?_, left, run⟩
    constructor
    · exact (wf'.of_ent rfl rfl wf'.staticBuffer : Wf cfg (c.record (.take (some o) x _))).putBuffer queued
    · exact clean.ent
    · exact clean.nanos
    · exact clean.slot
    · exact clean.ghost
    · refine left.trans ?_
      rw [nodup.erase_eq_filter]
      apply List.filter_congr
      intro j hj
      by_cases e : j = x
      · simp [e]
      · simp [e]
    · intro p ne fresh'
      have other : (c.w.buf.slot x).owner ≠ some p := fun e =>
        ne (Option.some.inj (e.symm.trans owner))
      have same := Buffers.Ok.putMemory_sameQueue wf'.staticBuffer queued other
      exact same.ofOwner.trans (cleaned.ofOwner fresh')

/-- The code after one more take from a queue that is not empty. -/
theorem code_succ (count : Nat) {k : Nat} (pos : 0 < k) :
    (if count + 1 = 0 then RmwRet.ok else if count + 1 ≤ k then .ok else .error) =
      if count = 0 then .ok else if count ≤ k - 1 then .ok else .error := by
  rw [if_neg (Nat.succ_ne_zero count)]
  by_cases enough : count + 1 ≤ k
  · have enough' : count ≤ k - 1 := by omega
    simp only [if_pos enough, if_pos enough', ite_self]
  · have short : ¬ count ≤ k - 1 := by omega
    have some : count ≠ 0 := by omega
    rw [if_neg enough, if_neg some, if_neg short]

/-- **The loop** takes the oldest messages until it has enough or finds none. -/
theorem takeSequenceLoop_run {i : Nat} {cdrDeserialize : List UInt8 → Bool} (count : Nat) :
    ∀ {s : State}, Wf cfg s → i ∈ s.w.ent.subscription.elements → s.Spared (.subscription i) →
      (∀ j ∈ s.w.buf.ofOwner (.subscription i), cdrDeserialize (s.slot j).payload = true) →
      ∀ ret data, ∃ xs rest t,
        Earliest.Picks (fun j => (s.slot j).timestamp) (s.w.buf.ofOwner (.subscription i)) xs rest ∧
        xs.length = min count (s.w.buf.ofOwner (.subscription i)).length ∧
        TakenOut cfg (.subscription i) xs s t ∧
        takeSequenceLoop i cdrDeserialize count ret data s =
          ((if count = 0 then ret
            else if count ≤ (s.w.buf.ofOwner (.subscription i)).length then .ok else .error,
            data ++ xs.map fun j => (s.slot j).payload), t) := by
  induction count with
  | zero =>
    intro s wf hi fresh readable ret data
    refine ⟨[], _, s, .nil _, by simp, ⟨wf, rfl, rfl, rfl, rfl, by simp, fun _ _ _ => rfl⟩, ?_⟩
    rw [takeSequenceLoop]
    simp [Prog.pure_run]
  | succ count ih =>
    intro s wf hi fresh readable ret data
    rcases takeWithInfo_cases wf hi fresh cdrDeserialize with
      ⟨empty, t, out, take⟩ | ⟨x, before, after, t, first, out, left, take⟩
    · refine ⟨[], _, t, .nil _, by simp [empty], out, ?_⟩
      rw [takeSequenceLoop, Prog.bind_run, take]
      simp [empty, Prog.pure_run]
    · have rv : cdrDeserialize (s.slot x).payload = true := readable x first.mem
      have sub : t.w.buf.ofOwner (.subscription i) ⊆ s.w.buf.ofOwner (.subscription i) := out.own_subset
      obtain ⟨xs, rest, u, picks, length, out', loop⟩ := ih out.wf (out.ent ▸ hi)
        (out.unexpired sub fresh) (fun j hj => out.slot ▸ readable j (sub hj)) .ok
        (data ++ [(s.slot x).payload])
      rw [left, out.slot] at picks
      have pos : 0 < (s.w.buf.ofOwner (.subscription i)).length := List.length_pos_of_mem first.mem
      have shorter : (t.w.buf.ofOwner (.subscription i)).length =
          (s.w.buf.ofOwner (.subscription i)).length - 1 := by
        rw [left, List.length_erase_of_mem first.mem]
      refine ⟨x :: xs, rest, u, .cons first picks, ?_, out.trans out', ?_⟩
      · rw [List.length_cons, length, shorter]
        omega
      · rw [takeSequenceLoop, Prog.bind_run, take]
        simp only [rv, if_true, ne_eq, not_true_eq_false, Bool.true_eq_false, or_self, if_false,
          Option.toList_some]
        rw [loop, shorter, out.slot, List.append_assoc]
        refine Prod.ext (Prod.ext ?_ rfl) rfl
        exact (code_succ count pos).symm

/-- **The calls** that take anything begin with a cleaning, and take from what it has left. -/
theorem takeSequenceLoop_cleaned (wf : Wf cfg s) {i : Nat} (hi : i ∈ s.w.ent.subscription.elements)
    {cdrDeserialize : List UInt8 → Bool}
    (readable : ∀ j ∈ s.w.buf.ofOwner (.subscription i), cdrDeserialize (s.slot j).payload = true)
    (count : Nat) :
    let c := (rmwUxrceCleanExpiredStaticInputBuffer s).2
    ∃ xs rest t,
      Earliest.Picks (fun j => (s.slot j).timestamp) (c.w.buf.ofOwner (.subscription i)) xs rest ∧
      xs.length = min (count + 1) (c.w.buf.ofOwner (.subscription i)).length ∧
      TakenOut cfg (.subscription i) xs c t ∧
      takeSequenceLoop i cdrDeserialize (count + 1) .ok [] s =
        ((if count + 1 ≤ (c.w.buf.ofOwner (.subscription i)).length then .ok else .error,
          xs.map fun j => (s.slot j).payload), t) := by
  intro c
  obtain ⟨-, wf', cleaned⟩ := clean_spec wf
  have slot : c.slot = s.slot := cleaned.slot
  have queue : c.w.buf.queue = s.w.buf.queue.filter fun j =>
      ¬ expired s.w.ent (rmwUrosEpochNanos s.w) (s.slot j) := cleaned.queue
  have left : ∀ j ∈ c.w.buf.ofOwner (.subscription i), j ∈ s.w.buf.ofOwner (.subscription i) := by
    intro j hj
    obtain ⟨queued, owner⟩ := Buffers.mem_ofOwner.1 hj
    rw [queue] at queued
    refine Buffers.mem_ofOwner.2 ⟨(List.mem_filter.1 queued).1, ?_⟩
    exact (congrArg StaticInputBuffer.owner (congrFun slot j)).symm.trans owner
  have start : takeSequenceLoop i cdrDeserialize (count + 1) .ok [] s =
      takeSequenceLoop i cdrDeserialize (count + 1) .ok [] c := by
    rw [takeSequenceLoop, Prog.bind_run, Prog.bind_run, takeWithInfo_clean wf hi]
  obtain ⟨xs, rest, t, picks, length, out, loop⟩ := takeSequenceLoop_run (count + 1) wf'
    (cleaned.ent ▸ hi) (cleaned.spared _)
    (fun j hj => by rw [cleaned.slot]; exact readable j (left j hj)) .ok []
  rw [slot] at picks
  refine ⟨xs, rest, t, picks, length, out, start.trans (loop.trans ?_)⟩
  rw [if_neg (Nat.succ_ne_zero count), List.nil_append]
  exact congrArg (fun slot => ((_, xs.map fun j => (slot j).payload), t)) slot

end Takes

/-- A prefix of the queue of an entity has been drained and reported: `xs` are the oldest messages, by
their timestamps, and in the order of reception where that agrees with them. -/
structure Drains (s : State) (o : Owner) (count : Nat) (ret : RmwRet) (out : TakeSequence) (t : State)
    (xs rest : List Nat) : Prop where
  taken : out.taken = min count (s.w.buf.ofOwner o).length
  data : out.data = xs.map fun j => (s.slot j).payload
  messageSize : out.messageSequenceSize = out.taken
  messageInfoSize : out.messageInfoSequenceSize = out.taken
  split : (s.w.buf.ofOwner o).Perm (xs ++ rest)
  inOrder : xs.Pairwise fun i j => (s.slot i).timestamp ≤ (s.slot j).timestamp
  oldest : ∀ i ∈ xs, ∀ j ∈ rest, (s.slot i).timestamp ≤ (s.slot j).timestamp
  received : ((s.w.buf.ofOwner o).Pairwise (Earliest.Agree (fun j => (s.slot j).timestamp) s.ghost.number)) →
    xs.map s.ghost.number = (s.received o).take out.taken
  left : t.w.buf.ofOwner o = rest
  slot : t.slot = s.slot
  others : ∀ p, p ≠ o → s.Lasting p → t.w.buf.ofOwner p = s.w.buf.ofOwner p
  code : 0 < out.taken → ret = .ok

section Drained

variable {s t : State} {o : Owner} {count : Nat} {ret : RmwRet} {xs rest : List Nat}

/-- The sequence that is handed out for the messages `xs`. -/
def drained (s : State) (xs : List Nat) : TakeSequence where
  data := xs.map fun j => (s.slot j).payload
  messageSequenceSize := xs.length
  messageInfoSequenceSize := xs.length

theorem drained_taken (s : State) (xs : List Nat) : (drained s xs).taken = xs.length := List.length_map _

theorem Drains.of_picks (wf : Wf cfg s)
    (picks : Earliest.Picks (fun j => (s.slot j).timestamp) (s.w.buf.ofOwner o) xs rest)
    (length : xs.length = min count (s.w.buf.ofOwner o).length)
    (own : t.w.buf.ofOwner o = (s.w.buf.ofOwner o).filter (· ∉ xs)) (slot : t.slot = s.slot)
    (others : ∀ p, p ≠ o → s.Lasting p → t.w.buf.ofOwner p = s.w.buf.ofOwner p)
    (code : 0 < xs.length → ret = .ok) : Drains s o count ret (drained s xs) t xs rest := by
  have nodup : (s.w.buf.ofOwner o).Nodup := (Slots.Ok.nodup wf.staticBuffer).filter _
  have taken := drained_taken s xs
  constructor
  · exact taken.trans length
  · rfl
  · exact taken.symm
  · exact taken.symm
  · exact picks.perm
  · exact picks.sorted
  · exact picks.le_rest
  · intro agree
    rw [picks.take_insertionSort nodup agree, taken]
    rfl
  · exact own.trans (picks.rest_eq nodup).symm
  · exact slot
  · exact others
  · exact fun pos => code (taken ▸ pos)

/-- What is drained has left the queue, and the rest is still there. -/
theorem Drains.lengths {out : TakeSequence} (h : Drains s o count ret out t xs rest) :
    out.data.length = min count (s.w.buf.ofOwner o).length ∧
      (t.w.buf.ofOwner o).length =
        (s.w.buf.ofOwner o).length - min count (s.w.buf.ofOwner o).length := by
  have data : out.data.length = xs.length := by rw [h.data, List.length_map]
  have taken : out.data.length = min count (s.w.buf.ofOwner o).length := h.taken
  have split := h.split.length_eq
  rw [List.length_append] at split
  refine ⟨taken, ?_⟩
  rw [h.left]
  omega

/-- The messages that last are left by the cleaning exactly while their deadlines fit. -/
theorem spared_iff (labelled : ∀ i ∈ s.queue, Labelled s i) (lasting : s.Lasting o) :
    s.Spared o ↔ ∀ j ∈ s.w.buf.ofOwner o, s.DeadlineFits (rmwUrosEpochNanos s.w) j := by
  refine forall₂_congr fun j hj => ?_
  have exact := expired_exact_iff (labelled j (Buffers.mem_ofOwner.1 hj).1) (rmwUrosEpochNanos_le s.w)
  rw [← exact, iff_false_right (lasting j hj)]

theorem lastingFit_iff (labelled : ∀ i ∈ s.queue, Labelled s i) :
    s.LastingFit ↔ ∀ p, s.Lasting p → s.Spared p := by
  constructor
  · intro fits p lasting
    refine (spared_iff labelled lasting).2 fun j hj => ?_
    obtain ⟨queued, owner⟩ := Buffers.mem_ofOwner.1 hj
    exact fits j queued p owner lasting
  · intro spared j hj p owner lasting
    exact (spared_iff labelled lasting).1 (spared p lasting) j (Buffers.mem_ofOwner.2 ⟨hj, owner⟩)

/-- The messages of an entity that a cleaning leaves. -/
theorem Cleaned.ofOwner_filter (h : Cleaned (rmwUrosEpochNanos s.w) s t) (p : Owner) :
    t.w.buf.ofOwner p = (s.w.buf.ofOwner p).filter fun i =>
      ¬ expired s.w.ent (rmwUrosEpochNanos s.w) (s.slot i) := by
  have queue : t.w.buf.queue = s.w.buf.queue.filter
      fun i => ¬ expired s.w.ent (rmwUrosEpochNanos s.w) (s.slot i) := h.queue
  have slot : t.w.buf.slot = s.w.buf.slot := h.slot
  rw [Buffers.ofOwner, queue, slot, List.filter_filter, Buffers.ofOwner, List.filter_filter]
  exact List.filter_congr fun i _ => Bool.and_comm _ _

theorem Cleaned.spared_of_length (h : Cleaned (rmwUrosEpochNanos s.w) s t) {p : Owner}
    (same : (t.w.buf.ofOwner p).length = (s.w.buf.ofOwner p).length) : s.Spared p := by
  rw [h.ofOwner_filter] at same
  intro j hj
  simpa using List.length_filter_eq_length_iff.1 same j hj

end Drained

end RmwMicroxrcedds
