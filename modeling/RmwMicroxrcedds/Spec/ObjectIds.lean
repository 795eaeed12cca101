import RmwMicroxrcedds.Proof.Issues

/-!
# The ids of live objects

The ids of a kind of objects are drawn from a counter of 16 bits. Inside a context two live objects
of a kind share an id only after the counter has come round to an id that is still in use, and
nothing in the library looks out for that.
-/

namespace RmwMicroxrcedds
set_option autoImplicit false

variable {cfg : Config} {c : Nat}

/-- Where a live object is found: in a slot, or among the graph entities of the context. -/
inductive Place where
  | slot (i : Nat)
  | graph
deriving DecidableEq

/-- An object of the kind lives in the context `c`, the only one, under this id. -/
def State.Lives (cfg : Config) (s : State) (c : Nat) (k : ObjectKind) : Place → Nat → Prop
  | .slot i, id => s.w.ent.Holds k i id
  | .graph, id => cfg.graph = true ∧ id ∈ (s.w.buf.graphInfo c).id k

/-- No two live objects of a kind carry the same id. -/
def UniqueIds (cfg : Config) (c : Nat) (s : State) : Prop :=
  ∀ k x y id, s.Lives cfg c k x id → s.Lives cfg c k y id → x = y

/-- None of the counters a creation draws from shows the id of a live object. -/
def FreshIds (cfg : Config) (c : Nat) (s : State) (i : Step) : Prop :=
  ∀ k ∈ i.call.objects, ∀ x, ¬ s.Lives cfg c k x ((s.w.ent.session.custom c).counter k)

/-- What comes with an id nobody has keeps the ids unique. -/
theorem Issues.unique {kinds : List ObjectKind} {s t : State} (h : Issues c kinds s t)
    (unique : UniqueIds cfg c s)
    (fresh : ∀ k ∈ kinds, ∀ x, ¬ s.Lives cfg c k x ((s.w.ent.session.custom c).counter k)) :
    UniqueIds cfg c t := by
  obtain ⟨slot, holds⟩ := h.holds
  have back : ∀ k x id, t.Lives cfg c k x id → s.Lives cfg c k x id ∨
      (k ∈ kinds ∧ x = .slot (slot k) ∧ id = (s.w.ent.session.custom c).counter k) := by
    intro k x id lives
    cases x with
    | slot i =>
      rcases holds k i id lives with old | ⟨mem, here, next⟩
      · exact .inl old
      · exact .inr ⟨mem, congrArg _ here, next⟩
    | graph =>
      left
      rw [State.Lives, h.graph c] at lives
      exact lives
  intro k x y id hx hy
  rcases back k x id hx with oldX | ⟨mem, hereX, nextX⟩
  · rcases back k y id hy with oldY | ⟨mem, -, nextY⟩
    · exact unique k x y id oldX oldY
    · exact absurd (nextY ▸ oldX) (fresh k mem x)
  · rcases back k y id hy with oldY | ⟨-, hereY, -⟩
    · exact absurd (nextX ▸ oldY) (fresh k mem y)
    · rw [hereX, hereY]

/-- The context `c` is the only one. -/
structure Alone (cfg : Config) (c : Nat) (s : State) : Prop where
  ready : Ready cfg s
  only : s.w.ent.session.elements = [c]

theorem Alone.step {s : State} (h : Alone cfg c s) {i : Step} (inside : i.call.Inside = true) :
    Alone cfg c (step cfg s i) ∧ (UniqueIds cfg c s → FreshIds cfg c s i →
      UniqueIds cfg c (step cfg s i)) := by
  have ready := (step_path h.ready i).2
  revert ready
  rw [RmwMicroxrcedds.step, call]
  split
  · intro ready
    have wf : Wf cfg (s.enter i) := { h.ready.wf with }
    have issues := perform_issues (c := c) wf h.only inside ‹_›
    have memory : (perform cfg i.call (s.enter i)).2.w.ent.session.elements = [c] := by
      rw [Slots.elements, issues.memory]
      exact h.only
    exact ⟨⟨ready, memory⟩, fun unique fresh => issues.unique (s := s.enter i) unique fresh⟩
  · exact fun _ => ⟨h, fun unique _ => unique⟩

/-- Nothing lives in a context that has just been opened but the graph entities. -/
theorem opened_alone {env : InitEnvironment} {agent : List Answer} {ret : RmwRet}
    (opened : (call cfg State.zero ⟨.init env, agent⟩).1 = .opened ret (some c)) :
    Alone cfg c (step cfg State.zero ⟨.init env, agent⟩) ∧
      Got cfg (State.zero.enter ⟨.init env, agent⟩) c (step cfg State.zero ⟨.init env, agent⟩) ∧
      ∀ k i id, ¬ (step cfg State.zero ⟨.init env, agent⟩).w.ent.Holds k i id := by
  set start : Step := ⟨.init env, agent⟩ with hstart
  have wf : Wf cfg (State.zero.enter start) := { (ready_zero cfg).wf with }
  have opens := rmwInit_opens wf env
  have impl : (rmwInit cfg env (State.zero.enter start)).1.2 = some c := (Reply.opened.inj opened).2
  rw [impl] at opens
  have got : Got cfg (State.zero.enter start) c (step cfg State.zero start) := opens
  have none : ∀ k, (State.zero.enter start).w.ent.cards k = [] := fun k => by cases k <;> rfl
  refine ⟨⟨(step_path (ready_zero cfg) start).2, got.elements⟩, got, fun k i id holds => ?_⟩
  by_cases hk : k = .topic
  · rw [Entities.Holds, if_pos hk, got.topics] at holds
    exact holds.1 rfl
  · rw [Entities.Holds, if_neg hk, got.cards k hk, none] at holds
    obtain ⟨card, mem, -⟩ := holds
    cases mem

/-- **Live object ids are unique** in every run inside a context in which no creation starts while a
counter it draws from shows an id in use. -/
theorem live_ids_unique {env : InitEnvironment} {agent : List Answer} {ret : RmwRet} {is : List Step}
    (opened : (call cfg State.zero ⟨.init env, agent⟩).1 = .opened ret (some c))
    (inside : ∀ i ∈ is, i.call.Inside = true)
    (fresh : Runs.Always (step cfg) (FreshIds cfg c) (step cfg State.zero ⟨.init env, agent⟩) is) :
    UniqueIds cfg c (run cfg (⟨.init env, agent⟩ :: is)) := by
  obtain ⟨alone, -, empty⟩ := opened_alone opened
  have start : UniqueIds cfg c (step cfg State.zero ⟨.init env, agent⟩) := by
    intro k x y id hx hy
    cases x with
    | slot i => exact absurd hx (empty k i id)
    | graph =>
      cases y with
      | slot i => exact absurd hy (empty k i id)
      | graph => rfl
  exact (Runs.invariant_exec (I := fun s => Alone cfg c s ∧ UniqueIds cfg c s)
    (fun s i h g => ⟨(h.1.step g.2).1, (h.1.step g.2).2 h.2 g.1⟩) ⟨alone, start⟩
    (fresh.and_mem inside)).2

/-- Nothing of the kinds a call creates is there yet. -/
theorem FreshIds.of_none {s : State} {i : Step} (graph : cfg.graph = false)
    (cards : ∀ k ∈ i.call.objects, k ≠ .topic → s.w.ent.cards k = [])
    (topics : ∀ x, (s.w.ent.topic.custom x).ownerNode = none) : FreshIds cfg c s i := by
  intro k hk x lives
  cases x with
  | graph => exact absurd lives.1 (by simp [graph])
  | slot x =>
    by_cases topic : k = .topic
    · rw [State.Lives, Entities.Holds, if_pos topic] at lives
      exact lives.1 (topics x)
    · rw [State.Lives, Entities.Holds, if_neg topic, cards k hk topic] at lives
      obtain ⟨card, mem, -⟩ := lives
      cases mem

/-- A node and a publisher. -/
theorem live_ids_unique_publisher :
    UniqueIds Small.config 1 (run Small.config
      [Small.init 0, Small.createNode 1, Small.createPublisher Small.typeSupport]) :=
  have opened : (call Small.config State.zero (Small.init 0)).1 = .opened .ok (some 1) := by decide
  live_ids_unique opened (by decide)
    ⟨.of_none rfl (by decide +kernel) fun _ => rfl, .of_none rfl (by decide +kernel) fun _ => rfl,
      trivial⟩

/-! ## The counters come round -/

namespace Small

/-- A node the agent does not confirm. -/
def refusedNode : Step := ⟨.createNode 1 (some ['n']) (some ['/']), []⟩

/-- One node is alive and the agent has refused `j` others. -/
structure Refusals (j : Nat) (s : State) : Prop where
  alone : Alone config 1 s
  reliable : s.Reliable 1
  size : s.w.ent.node.memory.size = 2
  counter : (s.w.ent.session.custom 1).counter .participant = (1 + j) % 65536
  cards : s.w.ent.cards .participant = [⟨1, some 1, ⟨0, .participant⟩⟩]

section Refusals

variable {j : Nat} {s : State} {agent : List Answer}

/-- How another creation of a node ends. -/
theorem Refusals.createNode (h : Refusals j s) (agent : List Answer) :
    ∃ i held rs, i ∉ s.w.ent.node.elements ∧
      (confirms agent = false ∧ held = none ∨ confirms agent = true ∧ held = some i) ∧
      let t := step config s ⟨.createNode 1 (some ['n']) (some ['/']), agent⟩
      Created [.participant] 1 (some 1) held s [.participant] s.w.ent.topic rs t ∧
        t.w.ent.node.memory.size = s.w.ent.node.memory.size := by
  set i : Step := ⟨.createNode 1 (some ['n']) (some ['/']), agent⟩ with hi
  have wf : Wf config (s.enter i) := { h.alone.ready.wf with }
  have defined : i.call.defined s.w.ent = true := by
    simp [hi, Call.defined, h.alone.only]
  have ran : step config s i =
      (RmwMicroxrcedds.createNode config ['n'] ['/'] (some 1) (s.enter i)).2 := by
    rw [step, call, if_pos defined]
    rfl
  have count : s.w.ent.node.elements.length = 1 := by
    have length := congrArg List.length h.cards
    rwa [Entities.cards, Slots.cards, List.length_map] at length
  have free := wf.node.get_isSome (by
    show s.w.ent.node.elements.length < s.w.ent.node.memory.size
    rw [count, h.size]
    decide)
  rcases createNode_ends ['n'] ['/'] 1 wf with ⟨none, -⟩ | ⟨x, slot, held, ks, rs, end_, created, size⟩
  · rw [none] at free
    cases free
  rw [← ran] at created size
  have fresh : x ∉ s.w.ent.node.elements := (wf.node.get_some slot).2.1
  cases end_ with
  | early long => simp [NamesTooLong, config] at long
  | untold text => cases text
  | refused text answer =>
    exact ⟨x, none, _, fresh, .inl ⟨answer h.reliable, rfl⟩,
      ⟨created.session, created.topic, created.graph, created.requests, created.cards⟩, size⟩
  | made text answer =>
    exact ⟨x, some x, _, fresh, .inr ⟨answer h.reliable, rfl⟩,
      ⟨created.session, created.topic, created.graph, created.requests, created.cards⟩, size⟩

/-- One more refusal. -/
theorem Refusals.next (h : Refusals j s) : Refusals (j + 1) (step config s refusedNode) := by
  obtain ⟨i, held, rs, -, answer, created, size⟩ := h.createNode []
  obtain ⟨-, rfl⟩ := answer.resolve_right fun yes => absurd yes.1 (by decide)
  have session : (step config s refusedNode).w.ent.session.custom 1 =
      (s.w.ent.session.custom 1).draw .participant := by
    rw [refusedNode, created.session, Slots.update_custom_self]
    rfl
  constructor
  · exact (h.alone.step rfl).1
  · rw [State.Reliable, session, Session.draw_creationStream]
    exact h.reliable
  · exact size.trans h.size
  · rw [session, Session.counter_draw _ _ _ (by decide), if_pos rfl, h.counter]
    omega
  · exact (created.cards .participant (by decide)).trans h.cards

theorem Refusals.replicate (h : Refusals j s) (k : Nat) :
    Refusals (j + k) (Runs.exec (step config) s (List.replicate k refusedNode)) := by
  induction k generalizing j s with
  | zero => exact h
  | succ k ih =>
    have rest := ih h.next
    rw [show j + 1 + k = j + (k + 1) by omega] at rest
    exact rest

/-- When the counter has come round, the next node gets the id of the first. -/
theorem Refusals.comes_round (h : Refusals 65535 s) :
    ¬ UniqueIds config 1 (step config s (Small.createNode 1)) := by
  obtain ⟨i, held, rs, fresh, answer, created, -⟩ := h.createNode confirming
  obtain ⟨-, rfl⟩ := answer.resolve_left fun no => absurd no.1 (by decide)
  have cards : (step config s (Small.createNode 1)).w.ent.cards .participant =
      [⟨i, some 1, ⟨0, .participant⟩⟩, ⟨1, some 1, ⟨0, .participant⟩⟩] := by
    refine (created.cards .participant (by decide)).trans ?_
    dsimp only
    rw [if_pos List.mem_cons_self, h.cards, Entities.nextId, h.counter]
  have used : 1 ∈ s.w.ent.node.elements := by
    have mem : (⟨1, some 1, ⟨0, .participant⟩⟩ : Card) ∈ s.w.ent.cards .participant := by
      rw [h.cards]
      exact List.mem_cons_self
    obtain ⟨n, hn, e⟩ := Slots.mem_cards.1 mem
    obtain rfl : n = 1 := congrArg Card.slot e
    exact hn
  have holds : ∀ x ∈ [i, 1], (step config s (Small.createNode 1)).w.ent.Holds .participant x 0 := by
    intro x hx
    refine ⟨⟨x, some 1, ⟨0, .participant⟩⟩, ?_, rfl, rfl⟩
    rw [cards]
    simpa using hx
  intro unique
  have same := unique .participant (.slot i) (.slot 1) 0 (holds i (by simp)) (holds 1 (by simp))
  obtain rfl : i = 1 := Place.slot.inj same
  exact fresh used

end Refusals

/-- A node, `k` nodes the agent does not confirm, and another node. -/
def comeRound (k : Nat) : List Step :=
  [Small.createNode 1] ++ List.replicate k refusedNode ++ [Small.createNode 1]

theorem refusals_start : Refusals 0 (run config [init 0, Small.createNode 1]) where
  alone := ⟨(run_path config _).2, by decide +kernel⟩
  reliable := by
    rw [State.Reliable]
    decide +kernel
  size := by decide +kernel
  counter := by decide +kernel
  cards := by decide +kernel

theorem comeRound_collides {k : Nat} (hk : k = 65535) :
    (comeRound k).all (·.call.Inside) = true ∧
      ¬ UniqueIds config 1 (run config (init 0 :: comeRound k)) := by
  constructor
  · simp [comeRound, Small.createNode, refusedNode, Call.Inside]
  · rw [comeRound, run, ← List.cons_append, ← List.cons_append, Runs.exec_append, Runs.exec_append,
      Runs.exec_cons, Runs.exec_nil]
    have refused := refusals_start.replicate k
    rw [Nat.zero_add, hk] at refused
    exact hk ▸ refused.comes_round

end Small

/-- The agent refuses 65535 nodes, and two live participants have the id 0. -/
theorem live_ids_collide :
    (call Small.config State.zero (Small.init 0)).1 = .opened .ok (some 1) ∧
      (Small.comeRound 65535).all (·.call.Inside) = true ∧
      ¬ UniqueIds Small.config 1 (run Small.config (Small.init 0 :: Small.comeRound 65535)) :=
  ⟨by decide, Small.comeRound_collides rfl⟩

end RmwMicroxrcedds
