import RmwMicroxrcedds.Proof.Receipts

/-!
# How long a message stays

A queued message stays what and where it is until a cleaning, a take or a shutdown releases its
buffer, or a callback is given the buffer for another sample. Each of these is recorded.
-/

namespace RmwMicroxrcedds
set_option autoImplicit false

variable {cfg : Config}

/-- The callback is given the buffer for its sample while another message is in it. -/
def Moment.Displaces (cfg : Config) (m : Moment) (i : Nat) : Prop :=
  ∃ c ∈ m.act.callback?, ∃ o ∈ addressee cfg c.1 c.2 m.world,
    (rmwUxrceGetStaticInputBufferForEntity m.world.buf o (m.world.ent.qos o)).1 = some i ∧
      i ∈ m.world.buf.queue

instance (cfg : Config) (m : Moment) (i : Nat) : Decidable (m.Displaces cfg i) :=
  inferInstanceAs (Decidable (∃ c ∈ m.act.callback?, ∃ o ∈ addressee cfg c.1 c.2 m.world, _))

/-- The buffer that a cleaning, a take or a shutdown releases. -/
def Moment.released? (m : Moment) : Option Nat :=
  match m.act with
  | .expire i | .flush i | .take _ i _ => some i
  | _ => none

/-- The message in the buffer is still queued, and the same. -/
structure Stays (s t : State) (i : Nat) : Prop where
  queued : i ∈ t.queue
  slot : t.slot i = s.slot i
  source : t.ghost.source i = s.ghost.source i

theorem Stays.refl {s : State} {i : Nat} (hi : i ∈ s.queue) : Stays s s i := ⟨hi, rfl, rfl⟩

theorem Stays.trans {s t u : State} {i : Nat} (h : Stays s t i) (k : Stays t u i) : Stays s u i :=
  ⟨k.queued, k.slot.trans h.slot, k.source.trans h.source⟩

/-- A callback that is not given the buffer. -/
theorem raise_stays {s : State} (wf : Wf cfg s) (session : Nat) {ev : SessionEvent}
    (route : ev.route ≠ none) {i : Nat} (hi : i ∈ s.queue)
    (spared : ¬ Moment.Displaces cfg ⟨s.call, .callback session ev, s.w, s.ghost⟩ i) :
    Stays s (raise cfg session s ev) i := by
  have kept : i ∈ (callback cfg session ev s.w).1.buf.queue ∧
      (callback cfg session ev s.w).1.buf.slot i = s.w.buf.slot i ∧
      (callback cfg session ev s.w).2 ≠ some i := by
    rw [callback_eq]
    cases meant : addressee cfg session ev s.w with
    | none =>
      dsimp only
      split <;> exact ⟨hi, rfl, by simp⟩
    | some o =>
      refine receive_spares wf.staticBuffer o (s.w.ent.qos o) ev hi fun granted => ?_
      exact spared ⟨(session, ev), rfl, o, meant, granted, hi⟩
  obtain ⟨queued, slot, unfilled⟩ := kept
  rw [raise_eq s session route]
  refine ⟨queued, slot, ?_⟩
  simp only [Ghost.received]
  cases filled : (callback cfg session ev s.w).2 with
  | none => rfl
  | some j => exact setAt_of_ne _ _ fun e => unfilled (e ▸ filled)

/-- One atomic action. -/
theorem Atomic.stays {s t : State} (step : Atomic cfg s t) {i : Nat} (hi : i ∈ s.queue)
    (spared : ∀ m, t.trace = m :: s.trace → ¬ m.Displaces cfg i ∧ m.released? ≠ some i) :
    Stays s t i := by
  obtain ⟨wf, -, micro⟩ := step
  have same : SameBuffers s t → Stays s t i := fun buffers =>
    ⟨buffers.queue ▸ hi, congrFun buffers.slot i, congrFun buffers.source i⟩
  have released : ∀ {act : Act} {j : Nat}, j ∈ s.queue → i ≠ j →
      Stays s ((s.record act).mapBuf (·.putMemory j)) i := fun hj ne =>
    ⟨queue_putMemory wf hj ▸ (List.mem_erase_of_ne ne).2 hi, rfl, rfl⟩
  cases micro with
  | quiet buffers => exact same buffers
  | acquire o buffers => exact same buffers
  | release o buffers => exact same buffers
  | callback session ev route =>
    exact raise_stays wf session route hi (spared _ (raise_raised wf session route).trace).1
  | expire j queued =>
    exact released queued fun e => (spared _ rfl).2 (congrArg some e.symm)
  | take o j deserialized found =>
    have queued := (Buffers.Ok.find_mem wf.staticBuffer found).1
    exact released queued fun e => (spared _ rfl).2 (congrArg some e.symm)
  | flush j queued =>
    exact released queued fun e => (spared _ rfl).2 (congrArg some e.symm)
  | _ => exact ⟨hi, rfl, rfl⟩

/-- **A message stays** along a path whose recorded actions neither release nor displace it. -/
theorem Path.stays {s t : State} (path : Path cfg s t) {l : List Moment}
    (recorded : t.trace = l ++ s.trace) {i : Nat} (hi : i ∈ s.queue)
    (spared : ∀ m ∈ l, ¬ m.Displaces cfg i ∧ m.released? ≠ some i) : Stays s t i := by
  induction path generalizing l with
  | refl => exact .refl hi
  | @tail u t path step ih =>
    obtain ⟨l', e⟩ := Path.trace_mono path
    rcases step.2.2.trace_cases with same | ⟨m, new, -, -⟩
    · have stays := ih (same ▸ recorded) spared
      refine stays.trans (step.stays stays.queued fun m e => ?_)
      exact absurd (congrArg List.length (same.symm.trans e)) (by simp)
    · have split : l = m :: l' := by
        apply List.append_left_injective s.trace
        show l ++ s.trace = m :: l' ++ s.trace
        rw [← recorded, new, ← e, List.cons_append]
      rw [split] at spared
      have stays := ih e.symm fun m' hm' => spared m' (List.mem_cons_of_mem _ hm')
      refine stays.trans (step.stays stays.queued fun m' e' => ?_)
      obtain rfl := (List.cons.inj (new.symm.trans e')).1
      exact spared m List.mem_cons_self

end RmwMicroxrcedds
