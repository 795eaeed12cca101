import RmwMicroxrcedds.Proof.Invariant
import RmwMicroxrcedds.Base.Triples

/-!
# The atomic actions

Every call is a sequence of atomic actions `Micro`, each taken between two states that satisfy
`Wf`. The cases say what an action does to the things the specifications of message delivery speak
about, and nothing else: the entities in use, the buffers in use and their contents, the history
variables and the trace. A property of all reachable states is proved by one induction over these
cases.
-/

namespace RmwMicroxrcedds
set_option autoImplicit false

open Triples

/-- The entity is in use. -/
def State.Alive (s : State) (o : Owner) : Prop := s.w.ent.Alive o

instance (s : State) (o : Owner) : Decidable (s.Alive o) :=
  inferInstanceAs (Decidable (s.w.ent.Alive o))

/-- The buffers in use. -/
def State.queue (s : State) : List Nat := s.w.buf.queue

/-- The content of a buffer. -/
def State.slot (s : State) : Nat → StaticInputBuffer := s.w.buf.slot

/-- Nothing has happened to the buffers. -/
structure SameBuffers (s t : State) : Prop where
  queue : t.queue = s.queue
  slot : t.slot = s.slot
  nanos : t.w.uxrNanos = s.w.uxrNanos
  source : t.ghost.source = s.ghost.source
  rx : t.ghost.rx = s.ghost.rx
  call : t.call = s.call

/-- Nothing has happened to the entities that can own buffers. -/
structure SameOwners (s t : State) : Prop where
  alive : ∀ o, t.Alive o ↔ s.Alive o
  incarnation : t.ghost.incarnation = s.ghost.incarnation
  givenIn : t.ghost.givenIn = s.ghost.givenIn
  epoch : t.ghost.epoch = s.ghost.epoch

/-- The recorded actions that go with no change of the entities and the buffers. -/
def Act.Neutral : Act → Prop
  | .ran .. | .waited .. | .closeTransport _ => True
  | _ => False

/-- The atomic actions. -/
inductive Micro (cfg : Config) : State → State → Prop
  | quiet {s t : State} (buffers : SameBuffers s t) (owners : SameOwners s t)
      (trace : t.trace = s.trace) : Micro cfg s t
  | note {s : State} (act : Act) (neutral : act.Neutral) : Micro cfg s (s.record act)
  /-- an element is handed out -/
  | acquire {s t : State} (o : Owner) (buffers : SameBuffers s t) (dead : ¬ s.Alive o)
      (alive : ∀ p, t.Alive p ↔ p = o ∨ s.Alive p) (ghost : t.ghost = s.ghost.handedOut o)
      (trace : t.trace = s.trace) : Micro cfg s t
  /-- the id of an entity is assigned -/
  | assign {s : State} (o : Owner) : Micro cfg s (s.mapGhost (·.given o))
  /-- an entity is released -/
  | release {s t : State} (o : Owner) (buffers : SameBuffers s t) (live : s.Alive o)
      (alive : ∀ p, t.Alive p ↔ p ≠ o ∧ s.Alive p) (ghost : t.ghost = s.ghost)
      (trace : t.trace = (s.record (.release o)).trace) : Micro cfg s t
  /-- a session `c` is opened, which no node belongs to yet -/
  | opened {s : State} (c : Nat) (ok : Bool)
      (unused : ∀ n ∈ s.w.ent.node.elements, (s.w.ent.node.custom n).context ≠ some c)
      (used : c ∈ s.w.ent.session.elements) :
      Micro cfg s ((s.mapGhost fun g => { g with epoch := g.epoch + 1 }).record
        (.openTransport c ok))
  | tick {s : State} (d : Nat) :
      Micro cfg s { s with w := { s.w with uxrNanos := s.w.uxrNanos + d } }
  | callback {s : State} (session : Nat) (ev : SessionEvent) (route : ev.route ≠ none) :
      Micro cfg s (raise cfg session s ev)
  /-- a cleaning releases a buffer -/
  | expire {s : State} (i : Nat) (queued : i ∈ s.queue)
      (late : expired s.w.ent (rmwUrosEpochNanos s.w) (s.slot i)) :
      Micro cfg s ((s.record (.expire i)).mapBuf (·.putMemory i))
  /-- a take releases the buffer it found -/
  | take {s : State} (o : Option Owner) (i : Nat) (deserialized : Bool)
      (found : rmwUxrceFindStaticInputBufferByOwner s.w.buf o = some i) (call : s.call = .take) :
      Micro cfg s ((s.record (.take o i deserialized)).mapBuf (·.putMemory i))
  /-- a shutdown releases a buffer -/
  | flush {s : State} (i : Nat) (queued : i ∈ s.queue) (call : s.call = .shutdown) :
      Micro cfg s ((s.record (.flush i)).mapBuf (·.putMemory i))
  /-- a call begins -/
  | enter {s : State} (call : CallKind) (agent : List Answer)
      (done : s.call = .shutdown → s.queue = []) :
      Micro cfg s { s with call := call, agent := agent }

/-- An atomic action between two states that satisfy the invariant. -/
def Atomic (cfg : Config) (s t : State) : Prop := Wf cfg s ∧ Wf cfg t ∧ Micro cfg s t

abbrev Path (cfg : Config) : State → State → Prop := Relation.ReflTransGen (Atomic cfg)

/-- The trace only grows. -/
theorem Micro.trace_mono {cfg : Config} {s t : State} (h : Micro cfg s t) :
    s.trace <:+ t.trace := by
  cases h with
  | quiet _ _ trace => exact trace ▸ List.suffix_refl _
  | note act _ => exact List.suffix_cons _ _
  | acquire _ _ _ _ _ trace => exact trace ▸ List.suffix_refl _
  | assign o => exact List.suffix_refl _
  | release _ _ _ _ _ trace => exact trace ▸ List.suffix_cons _ _
  | opened => exact List.suffix_cons _ _
  | tick => exact List.suffix_refl _
  | callback session ev route =>
    cases ev with
    | time d => exact absurd rfl route
    | _ => exact List.suffix_cons _ _
  | expire => exact List.suffix_cons _ _
  | take => exact List.suffix_cons _ _
  | flush => exact List.suffix_cons _ _
  | enter => exact List.suffix_refl _

theorem Path.trace_mono {cfg : Config} {s t : State} (h : Path cfg s t) : s.trace <:+ t.trace := by
  induction h with
  | refl => exact List.suffix_refl _
  | tail _ step ih => exact ih.trans step.2.2.trace_mono

/-! ## Recorded moments -/

/-- An action records at most one moment, in the state it is taken in. -/
theorem Micro.trace_cases {cfg : Config} {s t : State} (h : Micro cfg s t) :
    t.trace = s.trace ∨ ∃ m, t.trace = m :: s.trace ∧ m.world = s.w ∧ m.call = s.call := by
  cases h with
  | quiet _ _ trace => exact .inl trace
  | note act _ => exact .inr ⟨_, rfl, rfl, rfl⟩
  | acquire _ _ _ _ _ trace => exact .inl trace
  | assign o => exact .inl rfl
  | release _ _ _ _ _ trace => exact .inr ⟨_, trace, rfl, rfl⟩
  | opened => exact .inr ⟨_, rfl, rfl, rfl⟩
  | tick => exact .inl rfl
  | callback session ev route =>
    cases ev with
    | time d => exact absurd rfl route
    | _ => exact .inr ⟨_, rfl, rfl, rfl⟩
  | expire => exact .inr ⟨_, rfl, rfl, rfl⟩
  | take => exact .inr ⟨_, rfl, rfl, rfl⟩
  | flush => exact .inr ⟨_, rfl, rfl, rfl⟩
  | enter => exact .inl rfl

/-- The world a moment records. -/
theorem Micro.world_of_recorded {cfg : Config} {s t : State} {m : Moment} (h : Micro cfg s t)
    (e : t.trace = m :: s.trace) : m.world = s.w := by
  rcases h.trace_cases with same | ⟨m', e', world, -⟩
  · exact absurd (congrArg List.length (same.symm.trans e)) (by simp)
  · rw [(List.cons.inj (e.symm.trans e')).1, world]

/-- What has happened when an action recorded the moment `m`. -/
def Recorded (cfg : Config) (s t : State) (m : Moment) : Prop :=
  match m.act with
  | .callback session ev => t = raise cfg session s ev ∧ ev.route ≠ none
  | .expire i => t = (s.record (.expire i)).mapBuf (·.putMemory i) ∧ i ∈ s.queue ∧
      expired s.w.ent (rmwUrosEpochNanos s.w) (s.slot i)
  | .take o i deserialized => t = (s.record (.take o i deserialized)).mapBuf (·.putMemory i) ∧
      rmwUxrceFindStaticInputBufferByOwner s.w.buf o = some i ∧ s.call = .take
  | .flush i => t = (s.record (.flush i)).mapBuf (·.putMemory i) ∧ i ∈ s.queue ∧ s.call = .shutdown
  | .release o => SameBuffers s t ∧ s.Alive o ∧ (∀ p, t.Alive p ↔ p ≠ o ∧ s.Alive p) ∧
      t.ghost = s.ghost
  | .openTransport .. => True
  | _ => m = ⟨s.call, m.act, s.w, s.ghost⟩

theorem Micro.recorded {cfg : Config} {s t : State} {m : Moment} (h : Micro cfg s t)
    (e : t.trace = m :: s.trace) :
    Recorded cfg s t m ∧
      ((∀ c ok, m.act ≠ .openTransport c ok) → m = ⟨s.call, m.act, s.w, s.ghost⟩) := by
  have stay : ∀ {l : List Moment}, l = m :: l → False := fun e => by simpa using congrArg List.length e
  cases h with
  | quiet _ _ trace => exact (stay (trace ▸ e)).elim
  | acquire _ _ _ _ _ trace => exact (stay (trace ▸ e)).elim
  | assign o => exact (stay e).elim
  | tick => exact (stay e).elim
  | enter => exact (stay e).elim
  | note act neutral =>
    obtain rfl := (List.cons.inj e).1
    refine ⟨?_, fun _ => rfl⟩
    cases act <;> first | exact rfl | exact neutral.elim
  | release o buffers live alive ghost trace =>
    obtain rfl := (List.cons.inj (trace.symm.trans e)).1
    exact ⟨⟨buffers, live, alive, ghost⟩, fun _ => rfl⟩
  | opened c ok unused used =>
    obtain rfl := (List.cons.inj e).1
    exact ⟨trivial, fun h => absurd rfl (h c ok)⟩
  | callback session ev route =>
    have trace : (raise cfg session s ev).trace = ⟨s.call, .callback session ev, s.w, s.ghost⟩ :: s.trace := by
      cases ev with
      | time d => exact absurd rfl route
      | _ => rfl
    obtain rfl := (List.cons.inj (trace.symm.trans e)).1
    exact ⟨⟨rfl, route⟩, fun _ => rfl⟩
  | expire i queued late =>
    obtain rfl := (List.cons.inj e).1
    exact ⟨⟨rfl, queued, late⟩, fun _ => rfl⟩
  | take o i deserialized found call =>
    obtain rfl := (List.cons.inj e).1
    exact ⟨⟨rfl, found, call⟩, fun _ => rfl⟩
  | flush i queued call =>
    obtain rfl := (List.cons.inj e).1
    exact ⟨⟨rfl, queued, call⟩, fun _ => rfl⟩

/-- An action other than a take records none. -/
theorem Micro.take_cases {cfg : Config} {s t : State} (h : Micro cfg s t) :
    (∃ o i deserialized, t = (s.record (.take o i deserialized)).mapBuf (·.putMemory i) ∧
      rmwUxrceFindStaticInputBufferByOwner s.w.buf o = some i) ∨
    (∀ {α : Type} (f : Moment → Option α), (∀ m, m.act.take? = none → f m = none) →
      t.trace.filterMap f = s.trace.filterMap f) := by
  rcases h.trace_cases with same | ⟨m, e, -, -⟩
  · exact .inr fun f _ => by rw [same]
  · cases took : m.act.take? with
    | none => exact .inr fun f silent => by rw [e, List.filterMap_cons_none (silent m took)]
    | some p =>
      obtain ⟨o, i⟩ := p
      obtain ⟨deserialized, act⟩ := Act.take?_eq_some.1 took
      have recorded := (h.recorded e).1
      rw [Recorded, act] at recorded
      exact .inl ⟨o, i, deserialized, recorded.1, recorded.2.1⟩

end RmwMicroxrcedds
