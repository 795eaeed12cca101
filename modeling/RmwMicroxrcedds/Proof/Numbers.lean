import RmwMicroxrcedds.Proof.Receipts

/-!
# Messages by their numbers

A message is named by the number of the callback that stored it. The invariant ties every buffer in
use to the recorded callback that filled it and keeps its number apart from those handed out
before, through evictions, releases and the recycling of slots.
-/

namespace RmwMicroxrcedds
set_option autoImplicit false

variable {cfg : Config}

/-- The number of the message in a buffer. -/
def Ghost.number (g : Ghost) (i : Nat) : Nat := ((g.source i).map Source.rx).getD 0

/-- The number of the callback a moment records. -/
def Moment.number? (m : Moment) : Option Nat := m.act.callback?.map fun _ => m.ghost.rx

/-- The number of the message that a successful take hands out. -/
def Moment.handedOut? (m : Moment) : Option Nat :=
  match m.act with
  | .take _ i true => (m.ghost.source i).map Source.rx
  | _ => none

/-- The moment `c` is the callback that `src` stands for and that stamped the buffer `d`. -/
structure Origin (src : Source) (d : StaticInputBuffer) (c : Moment) : Prop where
  act : c.act = .callback src.session src.event
  number : c.ghost.rx = src.rx
  nanos : c.world.uxrNanos = src.nanos
  timestamp : d.timestamp = rmwUrosEpochNanos c.world

theorem Holds.number {s : State} {i : Nat} {src : Source} (h : Holds s i src) :
    s.ghost.number i = src.rx := by simp [Ghost.number, h.source]

/-! ## The invariant -/

/-- Buffered and handed out messages, by the numbers of their callbacks. -/
structure Numbered (s : State) : Prop where
  sourced : Sourced s
  numbers : (s.trace.filterMap Moment.number?).Nodup
  numbers_lt : ∀ r ∈ s.trace.filterMap Moment.number?, r < s.ghost.rx
  origin : ∀ i ∈ s.queue, ∀ src, s.ghost.source i = some src →
    ∃ c ∈ s.trace, Origin src (s.slot i) c
  once : (s.trace.filterMap Moment.handedOut?).Nodup
  handed_lt : ∀ r ∈ s.trace.filterMap Moment.handedOut?, r < s.ghost.rx
  apart : ∀ r ∈ s.trace.filterMap Moment.handedOut?, ∀ i ∈ s.queue, ∀ src,
    s.ghost.source i = some src → src.rx ≠ r

/-- Actions that neither are callbacks nor hand out a message. -/
theorem Numbered.keep {s t : State} (h : Numbered s) (sourced : Sourced t)
    (queue : t.queue ⊆ s.queue) (slot : t.slot = s.slot)
    (source : ∀ i, t.ghost.source i = s.ghost.source i) (rx : t.ghost.rx = s.ghost.rx)
    (trace : s.trace ⊆ t.trace)
    (numbers : t.trace.filterMap Moment.number? = s.trace.filterMap Moment.number?)
    (handed : t.trace.filterMap Moment.handedOut? = s.trace.filterMap Moment.handedOut?) :
    Numbered t where
  sourced := sourced
  numbers := numbers ▸ h.numbers
  numbers_lt := by
    rw [numbers, rx]
    exact h.numbers_lt
  origin i hi src hsrc := by
    obtain ⟨c, hc, origin⟩ := h.origin i (queue hi) src (source i ▸ hsrc)
    exact ⟨c, trace hc, slot ▸ origin⟩
  once := handed ▸ h.once
  handed_lt := by
    rw [handed, rx]
    exact h.handed_lt
  apart r hr i hi src hsrc := h.apart r (handed ▸ hr) i (queue hi) src (source i ▸ hsrc)

/-- A callback takes the next number. -/
theorem Numbered.raised {s t : State} (wf : Wf cfg s) (h : Numbered s) (sourced : Sourced t)
    {session : Nat} {ev : SessionEvent} (raised : Raised cfg s t session ev) : Numbered t := by
  have numbers : t.trace.filterMap Moment.number? =
      s.ghost.rx :: s.trace.filterMap Moment.number? := by
    rw [raised.trace, List.filterMap_cons]
    rfl
  have handed : t.trace.filterMap Moment.handedOut? = s.trace.filterMap Moment.handedOut? := by
    rw [raised.trace, List.filterMap_cons]
    rfl
  have lt : s.ghost.rx < t.ghost.rx := by
    rw [raised.rx]
    exact Nat.lt_succ_self _
  -- a buffer in use afterwards holds what it held, or the sample of this callback
  have cases_source : ∀ i ∈ t.queue, ∀ src, t.ghost.source i = some src →
      (i ∈ s.queue ∧ s.ghost.source i = some src ∧ t.slot i = s.slot i) ∨
        src.rx = s.ghost.rx ∧
          Origin src (t.slot i) ⟨s.call, .callback session ev, s.w, s.ghost⟩ := by
    intro i hi src hsrc
    cases raised.receipt with
    | ignored queue slot source => exact .inl ⟨queue ▸ hi, source ▸ hsrc, congrFun slot i⟩
    | refused o meant why queue slot source =>
      exact .inl ⟨queue ▸ hi, source ▸ hsrc, congrFun slot i⟩
    | unread o meant j grant short queue slot source =>
      rw [queue] at hi
      have ne := ((Slots.Ok.nodup wf.staticBuffer).mem_erase_iff.1 hi).1
      exact .inl ⟨List.erase_subset hi, source ▸ hsrc, slot i ne⟩
    | stored o meant j grant read queue slot source =>
      rw [source] at hsrc
      by_cases ne : i = j
      · subst ne
        rw [setAt_self, Option.some.injEq] at hsrc
        subst hsrc
        refine .inr ⟨rfl, rfl, rfl, rfl, ?_⟩
        rw [slot, setAt_self]
        rfl
      · rw [setAt_of_ne _ _ ne] at hsrc
        refine .inl ⟨?_, hsrc, by rw [slot, setAt_of_ne _ _ ne]⟩
        rw [queue] at hi
        split at hi
        · exact hi
        · exact (List.mem_cons.1 hi).resolve_left ne
  constructor
  · exact sourced
  · rw [numbers, List.nodup_cons]
    exact ⟨fun mem => lt_irrefl _ (h.numbers_lt _ mem), h.numbers⟩
  · rw [numbers]
    intro r hr
    rcases List.mem_cons.1 hr with rfl | hr
    · exact lt
    · exact (h.numbers_lt r hr).trans lt
  · intro i hi src hsrc
    rw [raised.trace]
    rcases cases_source i hi src hsrc with ⟨old, hsrc', slot⟩ | ⟨-, origin⟩
    · obtain ⟨c, hc, origin⟩ := h.origin i old src hsrc'
      exact ⟨c, List.mem_cons_of_mem _ hc, slot ▸ origin⟩
    · exact ⟨_, List.mem_cons_self, origin⟩
  · rw [handed]
    exact h.once
  · rw [handed]
    exact fun r hr => (h.handed_lt r hr).trans lt
  · rw [handed]
    intro r hr i hi src hsrc
    rcases cases_source i hi src hsrc with ⟨old, hsrc', -⟩ | ⟨rx, -⟩
    · exact h.apart r hr i old src hsrc'
    · rw [rx]
      exact (h.handed_lt r hr).ne'

/-- A take removes the message from the queue, and with it the last use of its number. -/
theorem Numbered.take {s t : State} (wf : Wf cfg s) (h : Numbered s) (sourced : Sourced t)
    {o : Option Owner} {i : Nat} {deserialized : Bool} (queued : i ∈ s.queue)
    (step : t = (s.record (.take o i deserialized)).mapBuf (·.putMemory i)) : Numbered t := by
  have queue : t.queue = s.queue.erase i := by
    rw [step]
    exact queue_putMemory wf queued
  have trace : t.trace = ⟨s.call, .take o i deserialized, s.w, s.ghost⟩ :: s.trace := by rw [step]; rfl
  have ghost : t.ghost = s.ghost := by rw [step]; rfl
  have slot : t.slot = s.slot := by rw [step]; rfl
  have numbers : t.trace.filterMap Moment.number? = s.trace.filterMap Moment.number? := by
    rw [trace, List.filterMap_cons]
    rfl
  have sub : t.queue ⊆ s.queue := queue ▸ List.erase_subset
  cases deserialized with
  | false =>
    refine h.keep sourced sub slot (fun j => by rw [ghost]) (by rw [ghost]) ?_ numbers ?_
    · rw [trace]
      exact List.subset_cons_self _ _
    · rw [trace, List.filterMap_cons]
      rfl
  | true =>
    obtain ⟨src, holds⟩ := h.sourced.holds i queued
    have handed : t.trace.filterMap Moment.handedOut? =
        src.rx :: s.trace.filterMap Moment.handedOut? := by
      rw [trace, List.filterMap_cons]
      simp only [Moment.handedOut?, holds.source, Option.map_some]
    constructor
    · exact sourced
    · rw [numbers]
      exact h.numbers
    · rw [numbers, ghost]
      exact h.numbers_lt
    · intro j hj src' hsrc
      rw [ghost] at hsrc
      obtain ⟨c, hc, origin⟩ := h.origin j (sub hj) src' hsrc
      exact ⟨c, trace ▸ List.mem_cons_of_mem _ hc, slot ▸ origin⟩
    · rw [handed, List.nodup_cons]
      exact ⟨fun mem => h.apart _ mem i queued src holds.source rfl, h.once⟩
    · rw [handed, ghost]
      intro r hr
      rcases List.mem_cons.1 hr with rfl | hr
      · exact holds.earlier
      · exact h.handed_lt r hr
    · rw [handed, ghost]
      intro r hr j hj src' hsrc
      rcases List.mem_cons.1 hr with rfl | hr
      · intro same
        have nodup := Slots.Ok.nodup wf.staticBuffer
        have e := h.sourced.distinct j (sub hj) i queued src' src hsrc holds.source same
        rw [queue] at hj
        exact (nodup.mem_erase_iff.1 hj).1 e
      · exact h.apart r hr j (sub hj) src' hsrc

/-- Every atomic action keeps the numbering. -/
theorem Numbered.atomic {s t : State} (step : Atomic cfg s t) (h : Numbered s) : Numbered t := by
  have sourced := h.sourced.atomic step
  obtain ⟨wf, -, micro⟩ := step
  -- an action that records something else, or nothing
  have silent : ∀ act : Act, act.callback? = none → act.take? = none →
      ∀ m : Moment, m.act = act → m.number? = none ∧ m.handedOut? = none := by
    intro act callback take m hm
    refine ⟨by simp [Moment.number?, hm, callback], ?_⟩
    rw [Moment.handedOut?, hm]
    cases act with
    | take => simp [Act.take?] at take
    | _ => rfl
  have cons : ∀ {m : Moment} {l : List Moment}, m.number? = none ∧ m.handedOut? = none →
      (m :: l).filterMap Moment.number? = l.filterMap Moment.number? ∧
        (m :: l).filterMap Moment.handedOut? = l.filterMap Moment.handedOut? := fun hm =>
    ⟨List.filterMap_cons_none hm.1, List.filterMap_cons_none hm.2⟩
  cases micro with
  | quiet buffers owners trace =>
    exact h.keep sourced (buffers.queue ▸ List.Subset.refl _) buffers.slot
      (congrFun buffers.source) buffers.rx
      (trace ▸ List.Subset.refl _) (by rw [trace]) (by rw [trace])
  | note act neutral =>
    obtain ⟨numbers, handed⟩ := cons (l := s.trace) (silent act
      (by cases act <;> first | rfl | exact neutral.elim)
      (by cases act <;> first | rfl | exact neutral.elim) ⟨s.call, act, s.w, s.ghost⟩ rfl)
    exact h.keep sourced (List.Subset.refl _) rfl (fun _ => rfl) rfl (List.subset_cons_self _ _) numbers
      handed
  | acquire o buffers dead alive ghost trace =>
    exact h.keep sourced (buffers.queue ▸ List.Subset.refl _) buffers.slot
      (congrFun buffers.source) buffers.rx
      (trace ▸ List.Subset.refl _) (by rw [trace]) (by rw [trace])
  | assign o =>
    exact h.keep sourced (List.Subset.refl _) rfl (fun _ => rfl) rfl (List.Subset.refl _) rfl rfl
  | release o buffers live alive ghost trace =>
    obtain ⟨numbers, handed⟩ := cons (l := s.trace)
      (silent (.release o) rfl rfl ⟨s.call, .release o, s.w, s.ghost⟩ rfl)
    exact h.keep sourced (buffers.queue ▸ List.Subset.refl _) buffers.slot
      (congrFun buffers.source) buffers.rx
      (trace ▸ List.subset_cons_self _ _) (trace ▸ numbers) (trace ▸ handed)
  | opened c ok =>
    obtain ⟨numbers, handed⟩ := cons (l := s.trace) (silent (.openTransport c ok) rfl rfl
      ⟨s.call, .openTransport c ok, s.w, { s.ghost with epoch := s.ghost.epoch + 1 }⟩ rfl)
    exact h.keep sourced (List.Subset.refl _) rfl (fun _ => rfl) rfl (List.subset_cons_self _ _) numbers
      handed
  | tick d =>
    exact h.keep sourced (List.Subset.refl _) rfl (fun _ => rfl) rfl (List.Subset.refl _) rfl rfl
  | callback session ev route => exact h.raised wf sourced (raise_raised wf session route)
  | expire i queued =>
    obtain ⟨numbers, handed⟩ := cons (l := s.trace)
      (silent (.expire i) rfl rfl ⟨s.call, .expire i, s.w, s.ghost⟩ rfl)
    have sub : ((s.record (.expire i)).mapBuf (·.putMemory i)).queue ⊆ s.queue :=
      (queue_putMemory wf queued : (s.mapBuf (·.putMemory i)).queue = _) ▸ List.erase_subset
    exact h.keep sourced sub rfl (fun _ => rfl) rfl (List.subset_cons_self _ _) numbers handed
  | take o i deserialized found =>
    exact h.take wf sourced (Buffers.Ok.find_mem wf.staticBuffer found).1 rfl
  | flush i queued =>
    obtain ⟨numbers, handed⟩ := cons (l := s.trace)
      (silent (.flush i) rfl rfl ⟨s.call, .flush i, s.w, s.ghost⟩ rfl)
    have sub : ((s.record (.flush i)).mapBuf (·.putMemory i)).queue ⊆ s.queue :=
      (queue_putMemory wf queued : (s.mapBuf (·.putMemory i)).queue = _) ▸ List.erase_subset
    exact h.keep sourced sub rfl (fun _ => rfl) rfl (List.subset_cons_self _ _) numbers handed
  | enter =>
    exact h.keep sourced (List.Subset.refl _) rfl (fun _ => rfl) rfl (List.Subset.refl _) rfl rfl

theorem numbered_zero : Numbered State.zero where
  sourced := sourced_zero
  numbers := List.nodup_nil
  numbers_lt := by simp [State.zero]
  origin i hi := by
    obtain ⟨src, holds⟩ := sourced_zero.holds i hi
    simp [State.zero] at holds
    exact absurd holds.source (by simp)
  once := List.nodup_nil
  handed_lt := by simp [State.zero]
  apart := by simp [State.zero]

theorem run_numbered (cfg : Config) (is : List Step) : Numbered (run cfg is) :=
  (run_path cfg is).1.keeps (fun _ _ => Numbered.atomic) numbered_zero

end RmwMicroxrcedds
