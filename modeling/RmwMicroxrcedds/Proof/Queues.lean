import RmwMicroxrcedds.Proof.Arrivals
import RmwMicroxrcedds.Base.Fifo

/-!
# The queue of one entity

What receptions, takes and cleanings do to the buffers of one entity. Actions that are not about it
leave its buffers alone, although all entities share one list; a reception for it appends, replaces
its oldest message, or is refused.
-/

namespace RmwMicroxrcedds
set_option autoImplicit false

variable {cfg : Config}

namespace Buffers

variable {b b' : Buffers} {n : Nat} {o p : Owner}

/-- The buffers of an entity and what they hold are untouched. -/
structure SameQueue (o : Owner) (b b' : Buffers) : Prop where
  ofOwner : b'.ofOwner o = b.ofOwner o
  slot : ∀ i ∈ b.ofOwner o, b'.slot i = b.slot i

/-- A release, seen from one entity. -/
theorem Ok.putMemory_ofOwner (ok : b.Ok n) {i : Nat} (h : i ∈ b.queue) :
    (b.putMemory i).ofOwner o = (b.ofOwner o).erase i := by
  rw [ofOwner, (ok.putMemory h).2, putMemory_slot, ofOwner, List.erase_filter]

theorem Ok.putMemory_sameQueue (ok : b.Ok n) {i : Nat} (h : i ∈ b.queue)
    (other : (b.slot i).owner ≠ some o) : SameQueue o b (b.putMemory i) where
  ofOwner := by
    rw [ok.putMemory_ofOwner h, List.erase_of_not_mem]
    exact fun mem => other (mem_ofOwner.1 mem).2
  slot _ _ := rfl

end Buffers

variable {b b' : Buffers} {n : Nat} {o p : Owner}

/-- A reception for one entity leaves the queues of the others alone. -/
theorem Reception.sameQueue (ok : b.Ok n) {qos : RmwQosProfile} {ev : SessionEvent} {now : Int}
    {filled : Option Nat} (h : Reception b o qos ev now b' filled) (ne : p ≠ o) :
    Buffers.SameQueue p b b' := by
  have nodup : b.queue.Nodup := Slots.Ok.nodup ok
  have granted : ∀ {i}, b.Grant o qos i → i ∉ b.ofOwner p := fun grant mem => by
    obtain ⟨queued, owner⟩ := Buffers.mem_ofOwner.1 mem
    exact ne (Option.some.inj (owner.symm.trans (grant.owner_of_mem queued)))
  have stay : ∀ {i}, b.Grant o qos i → (∀ j, j ≠ i → b'.slot j = b.slot j) →
      ∀ j ∈ b.ofOwner p, b'.slot j = b.slot j := fun grant slot j hj =>
    slot j fun e => granted grant (e ▸ hj)
  cases h with
  | refused why same =>
    rw [same]
    exact ⟨rfl, fun _ _ => rfl⟩
  | unread i grant short queue slot =>
    refine ⟨?_, stay grant slot⟩
    have congr : b'.ofOwner p = (b.queue.erase i).filter fun j => (b.slot j).owner = some p := by
      rw [Buffers.ofOwner, queue]
      refine List.filter_congr fun j hj => ?_
      rw [slot j (nodup.mem_erase_iff.1 hj).1]
    rw [congr, ← List.erase_filter]
    exact List.erase_of_not_mem (granted grant)
  | stored i grant read queue slot =>
    have slot_ne : ∀ j, j ≠ i → b'.slot j = b.slot j := fun j hj => by rw [slot, setAt_of_ne _ _ hj]
    have owner : (b'.slot i).owner = some o := by
      rw [slot, setAt_self]
      rfl
    refine ⟨?_, stay grant slot_ne⟩
    have congr : ∀ j ∈ b.queue,
        decide ((b'.slot j).owner = some p) = decide ((b.slot j).owner = some p) := by
      intro j hj
      by_cases e : j = i
      · subst e
        rw [owner, grant.owner_of_mem hj]
      · rw [slot_ne j e]
    rw [Buffers.ofOwner, queue]
    split
    · exact List.filter_congr congr
    · rw [List.filter_cons_of_neg]
      · exact List.filter_congr congr
      · simpa [owner] using Ne.symm ne

/-- A callback leaves the queue of every entity but the addressee alone. -/
theorem Delivery.sameQueue {w : World} (ok : w.buf.Ok n) {session : Nat} {ev : SessionEvent}
    {filled : Option Nat} (h : Delivery cfg session w ev b' filled)
    (other : addressee cfg session ev w ≠ some p) : Buffers.SameQueue p w.buf b' := by
  cases h with
  | ignored nobody same =>
    have queue : b'.queue = w.buf.queue := congrArg Slots.elements same
    have slot : b'.slot = w.buf.slot := congrArg Slots.custom same
    exact ⟨by rw [Buffers.ofOwner, queue, slot, Buffers.ofOwner], fun i _ => congrFun slot i⟩
  | routed o meant reception =>
    refine reception.sameQueue ok ?_
    rintro rfl
    exact other meant

/-! ## Numbers -/

/-- The numbers of the messages queued for an entity, in list order. -/
def State.numbers (s : State) (o : Owner) : List Nat := (s.w.buf.ofOwner o).map s.ghost.number

/-- The same in the order of their reception. -/
def State.received (s : State) (o : Owner) : List Nat := (s.numbers o).insertionSort (· ≤ ·)

theorem State.length_numbers (s : State) (o : Owner) :
    (s.numbers o).length = (s.w.buf.ofOwner o).length := List.length_map _

theorem numbers_of_source {s t : State} (queue : t.w.buf.ofOwner o = s.w.buf.ofOwner o)
    (source : ∀ i ∈ s.w.buf.ofOwner o, t.ghost.source i = s.ghost.source i) :
    t.numbers o = s.numbers o := by
  rw [State.numbers, queue]
  refine List.map_congr_left fun i hi => ?_
  rw [Ghost.number, source i hi, Ghost.number]

/-- What a callback for another entity, or for none, does. -/
theorem Raised.numbers_other {s t : State} (wf : Wf cfg s) {session : Nat} {ev : SessionEvent}
    (raised : Raised cfg s t session ev) (t_eq : t = raise cfg session s ev) (route : ev.route ≠ none)
    (other : addressee cfg session ev s.w ≠ some o) : t.numbers o = s.numbers o := by
  obtain ⟨-, -, -, delivery⟩ := callback_spec (w := s.w) cfg session ev wf.staticBuffer
  have buf : t.w.buf = (callback cfg session ev s.w).1.buf := by rw [t_eq, raise_eq s session route]
  have same := delivery.sameQueue wf.staticBuffer other
  refine numbers_of_source (buf ▸ same.ofOwner) fun i hi => ?_
  cases raised.receipt with
  | ignored queue slot source => rw [source]
  | refused p meant why queue slot source => rw [source]
  | unread p meant j grant short queue slot source => rw [source]
  | stored p meant j grant read queue slot source =>
    rw [source, setAt_of_ne]
    rintro rfl
    obtain ⟨queued, owner⟩ := Buffers.mem_ofOwner.1 hi
    exact other (owner.symm.trans (grant.owner_of_mem queued) ▸ meant)

/-- What a callback with a sample that can be read does to the queue of its addressee. -/
theorem Raised.numbers_addressee {s t : State} (wf : Wf cfg s) {session : Nat} {ev : SessionEvent}
    (raised : Raised cfg s t session ev) (meant : addressee cfg session ev s.w = some o)
    (read : ev.length ≤ ev.bytes.length) :
    (Buffers.Room (s.w.ent.qos o) (s.w.buf.ofOwner o).length ∧
      t.numbers o = s.ghost.rx :: s.numbers o) ∨
    (¬ Buffers.Room (s.w.ent.qos o) (s.w.buf.ofOwner o).length ∧
      (s.w.ent.qos o).history ≠ .keepAll ∧
      ∃ i front back, s.w.buf.Oldest o i front back ∧
        (t.numbers o).Perm (s.ghost.rx :: ((s.w.buf.ofOwner o).erase i).map s.ghost.number)) ∨
    (s.w.buf.Refusal o (s.w.ent.qos o) ∧ t.numbers o = s.numbers o) := by
  have nodup : s.queue.Nodup := Slots.Ok.nodup wf.staticBuffer
  cases raised.receipt with
  | ignored queue slot source nobody => exact absurd (meant.symm.trans nobody) (by simp)
  | refused p meant' why queue slot source =>
    obtain rfl := Option.some.inj (meant.symm.trans meant')
    refine .inr (.inr ⟨why, numbers_of_source ?_ fun i _ => by rw [source]⟩)
    have q : t.w.buf.queue = s.w.buf.queue := queue
    have sl : t.w.buf.slot = s.w.buf.slot := slot
    rw [Buffers.ofOwner, q, sl, Buffers.ofOwner]
  | unread p meant' i grant short => omega
  | stored p meant' i grant _ queue slot source =>
    obtain rfl := Option.some.inj (meant.symm.trans meant')
    have owner : (t.w.buf.slot i).owner = some o := by
      rw [show t.w.buf.slot i = t.slot i from rfl, slot, setAt_self]
      rfl
    have slot_ne : ∀ j, j ≠ i → t.w.buf.slot j = s.w.buf.slot j := fun j hj => by
      rw [show t.w.buf.slot = t.slot from rfl, slot, setAt_of_ne _ _ hj]
      rfl
    have number_self : t.ghost.number i = s.ghost.rx := by simp [Ghost.number, source]
    have number_ne : ∀ j, j ≠ i → t.ghost.number j = s.ghost.number j := fun j hj => by
      rw [Ghost.number, source, setAt_of_ne _ _ hj, Ghost.number]
    cases grant with
    | fresh room free space =>
      have free' : i ∉ s.queue := free
      have queue' : t.w.buf.queue = i :: s.queue := queue.trans (if_neg free')
      refine .inl ⟨room, ?_⟩
      have list : t.w.buf.ofOwner o = i :: s.w.buf.ofOwner o := by
        rw [Buffers.ofOwner, queue', List.filter_cons_of_pos (by simp [owner])]
        refine congrArg (i :: ·) (List.filter_congr fun j hj => ?_)
        rw [slot_ne j (by rintro rfl; exact free' hj)]
      rw [State.numbers, list, List.map_cons, number_self]
      refine congrArg (s.ghost.rx :: ·) (List.map_congr_left fun j hj => number_ne j ?_)
      rintro rfl
      exact free' (Buffers.mem_ofOwner.1 hj).1
    | evict full history oldest =>
      obtain ⟨front, back, first⟩ := oldest
      have mem : i ∈ s.queue := first.mem
      have queue' : t.w.buf.queue = s.queue := queue.trans (if_pos mem)
      refine .inr (.inl ⟨full, history, i, front, back, first, ?_⟩)
      have list : t.w.buf.ofOwner o = s.w.buf.ofOwner o := by
        rw [Buffers.ofOwner, queue']
        refine List.filter_congr fun j hj => ?_
        by_cases e : j = i
        · subst e
          rw [owner, show (s.w.buf.slot j).owner = some o from first.relevant]
        · rw [slot_ne j e]
      have own : i ∈ s.w.buf.ofOwner o := Buffers.mem_ofOwner.2 ⟨mem, first.relevant⟩
      have nodup' : (s.w.buf.ofOwner o).Nodup := nodup.filter _
      rw [State.numbers, list]
      refine ((List.perm_cons_erase own).map _).trans ?_
      rw [List.map_cons, number_self]
      refine List.Perm.of_eq (congrArg (s.ghost.rx :: ·) (List.map_congr_left fun j hj => number_ne j ?_))
      exact (nodup'.mem_erase_iff.1 hj).1

end RmwMicroxrcedds
