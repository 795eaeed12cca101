import RmwMicroxrcedds.Proof.Survivors

/-!
# Which message a buffer ends up with

As long as no buffer is released, only callbacks change what is queued. The last one that is given a buffer for its
sample decides what is in it: the sample, or nothing if it cannot be read.
-/

namespace RmwMicroxrcedds
set_option autoImplicit false

variable {cfg : Config}

/-- The owner and the timestamp of the message in a buffer in use. -/
def Buffers.message (b : Buffers) (i : Nat) : Option (Option Owner × Int) :=
  if i ∈ b.queue then some ((b.slot i).owner, (b.slot i).timestamp) else none

/-- The buffer that the callback is given for its sample. -/
def Moment.given (cfg : Config) (m : Moment) : Option Nat :=
  m.act.callback?.bind fun c => (addressee cfg c.1 c.2 m.world).bind fun o =>
    (rmwUxrceGetStaticInputBufferForEntity m.world.buf o (m.world.ent.qos o)).1

/-- The message that it leaves there: none, if the sample cannot be read. -/
def Moment.brings (cfg : Config) (m : Moment) : Option (Option Owner × Int) :=
  m.act.callback?.bind fun c => (addressee cfg c.1 c.2 m.world).bind fun o =>
    if c.2.length ≤ c.2.bytes.length then some (some o, rmwUrosEpochNanos m.world) else none

/-- The message in the buffer after some actions, the latest first. -/
def messageAfter (cfg : Config) (i : Nat) (message : Option (Option Owner × Int)) :
    List Moment → Option (Option Owner × Int)
  | [] => message
  | m :: l => if m.given cfg = some i then m.brings cfg else messageAfter cfg i message l

theorem messageAfter_append (i : Nat) (message : Option (Option Owner × Int)) (l l' : List Moment) :
    messageAfter cfg i message (l ++ l') = messageAfter cfg i (messageAfter cfg i message l') l := by
  induction l with
  | nil => rfl
  | cons m l ih => rw [List.cons_append, messageAfter, messageAfter, ih]

/-- Without callbacks it stays. -/
theorem messageAfter_quiet {i : Nat} {message : Option (Option Owner × Int)} {l : List Moment}
    (quiet : ∀ m ∈ l, m.act.callback? = none) : messageAfter cfg i message l = message := by
  induction l with
  | nil => rfl
  | cons m l ih =>
    have none : m.given cfg = none := by rw [Moment.given, quiet m List.mem_cons_self, Option.bind_none]
    rw [messageAfter, none, if_neg (by simp)]
    exact ih fun m' mem => quiet m' (List.mem_cons_of_mem _ mem)

/-- One callback. -/
theorem callback_message {w : World} {n : Nat} (ok : w.buf.Ok n) (call : CallKind) (g : Ghost) (session : Nat)
    (ev : SessionEvent) (i : Nat) :
    let m : Moment := ⟨call, .callback session ev, w, g⟩
    (callback cfg session ev w).1.buf.message i =
      if m.given cfg = some i then m.brings cfg else w.buf.message i := by
  intro m
  have given : m.given cfg = (addressee cfg session ev w).bind fun o =>
      (rmwUxrceGetStaticInputBufferForEntity w.buf o (w.ent.qos o)).1 := rfl
  have brings : m.brings cfg = (addressee cfg session ev w).bind fun o =>
      if ev.length ≤ ev.bytes.length then some (some o, rmwUrosEpochNanos w) else none := rfl
  rw [given, brings, callback_eq]
  cases addressee cfg session ev w with
  | none =>
    simp only [Option.bind_none, reduceCtorEq, if_false]
    split <;> rfl
  | some o =>
    dsimp only [Option.bind_some]
    obtain ⟨-, -, ⟨granted, -, same, -⟩ | ⟨j, granted, -, cases⟩⟩ := receive_cases ok o (w.ent.qos o) ev
    · simp only [granted, reduceCtorEq, if_false]
      rw [same]
    · have nodup := Slots.Ok.nodup ok
      simp only [granted, Option.some.injEq, Buffers.message]
      rcases cases with ⟨short, -, queue, slot⟩ | ⟨read, -, queue, slot⟩
      · rw [if_neg (Nat.not_le.2 short), queue]
        by_cases e : j = i
        · rw [if_pos e, ← e]
          exact if_neg fun mem => (nodup.mem_erase_iff.1 mem).1 rfl
        · rw [if_neg e, slot i (Ne.symm e)]
          exact if_congr (List.mem_erase_of_ne (Ne.symm e)) rfl rfl
      · rw [if_pos read, queue, slot]
        by_cases e : j = i
        · subst e
          have mem : j ∈ (if j ∈ w.buf.queue then w.buf.queue else j :: w.buf.queue) := by
            split
            · assumption
            · exact List.mem_cons_self
          rw [if_pos mem, if_pos rfl, setAt_self]
          rfl
        · rw [if_neg e, setAt_of_ne _ _ (Ne.symm e)]
          refine if_congr ?_ rfl rfl
          split
          · rfl
          · rw [List.mem_cons, or_iff_right (Ne.symm e)]

/-- One atomic action that releases no buffer. -/
theorem Atomic.message {s t : State} (step : Atomic cfg s t) (i : Nat) :
    (t.trace = s.trace ∧ t.w.buf.message i = s.w.buf.message i) ∨
      ∃ m, t.trace = m :: s.trace ∧ (m.released? = none →
        t.w.buf.message i = if m.given cfg = some i then m.brings cfg else s.w.buf.message i) := by
  obtain ⟨wf, -, micro⟩ := step
  have same : SameBuffers s t → t.w.buf.message i = s.w.buf.message i := fun buffers => by
    have queue : t.w.buf.queue = s.w.buf.queue := buffers.queue
    have slot : t.w.buf.slot = s.w.buf.slot := buffers.slot
    rw [Buffers.message, Buffers.message, queue, slot]
  cases micro with
  | quiet buffers _ trace => exact .inl ⟨trace, same buffers⟩
  | acquire o buffers _ _ _ trace => exact .inl ⟨trace, same buffers⟩
  | assign o => exact .inl ⟨rfl, rfl⟩
  | tick => exact .inl ⟨rfl, rfl⟩
  | enter => exact .inl ⟨rfl, rfl⟩
  | release o buffers _ _ _ trace =>
    refine .inr ⟨_, trace, fun _ => (same buffers).trans ?_⟩
    exact (if_neg (by simp [Moment.given, Act.callback?])).symm
  | opened => exact .inr ⟨_, rfl, fun _ => (if_neg (by simp [Moment.given, Act.callback?])).symm⟩
  | note act neutral =>
    refine .inr ⟨_, rfl, fun _ => (if_neg ?_).symm⟩
    cases act <;> first | exact neutral.elim | simp [Moment.given, Act.callback?]
  | callback session ev route =>
    refine .inr ⟨_, (raise_raised wf session route).trace, fun _ => ?_⟩
    rw [raise_eq s session route]
    exact callback_message wf.staticBuffer s.call s.ghost session ev i
  | expire j => exact .inr ⟨_, rfl, fun none => by cases none⟩
  | take o j => exact .inr ⟨_, rfl, fun none => by cases none⟩
  | flush j => exact .inr ⟨_, rfl, fun none => by cases none⟩

/-- **What is in a buffer** at the end of a path that releases none is told by the callbacks on it. -/
theorem Path.message {s t : State} (path : Path cfg s t) {l : List Moment} (recorded : t.trace = l ++ s.trace)
    (unreleased : ∀ m ∈ l, m.released? = none) (i : Nat) :
    t.w.buf.message i = messageAfter cfg i (s.w.buf.message i) l := by
  induction path generalizing l with
  | refl =>
    rw [List.append_left_eq_self.1 recorded.symm]
    rfl
  | @tail u t path step ih =>
    obtain ⟨l', e⟩ := Path.trace_mono path
    rcases step.message i with ⟨same, message⟩ | ⟨m, new, message⟩
    · rw [message]
      exact ih (same ▸ recorded) unreleased
    · have split : l = m :: l' := by
        apply List.append_left_injective s.trace
        show l ++ s.trace = m :: l' ++ s.trace
        rw [← recorded, new, ← e, List.cons_append]
      rw [split] at unreleased ⊢
      rw [message (unreleased m List.mem_cons_self), messageAfter,
        ih e.symm fun m' mem => unreleased m' (List.mem_cons_of_mem _ mem)]

/-- What a state has recorded since another one. -/
def State.since (t s : State) : List Moment := t.trace.take (t.trace.length - s.trace.length)

theorem State.since_eq {s t : State} {l : List Moment} (recorded : t.trace = l ++ s.trace) : t.since s = l := by
  rw [State.since, recorded, List.length_append, Nat.add_sub_cancel, List.take_left]

end RmwMicroxrcedds
