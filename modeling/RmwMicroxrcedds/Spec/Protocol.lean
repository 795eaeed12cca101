import RmwMicroxrcedds.Proof.MirrorCalls
import RmwMicroxrcedds.Spec.AgentBalance

/-!
# The protocol with the agent

Inside a context whose counters do not come round, the library never confuses the agent: it asks for no
object twice and for none under a parent that is missing, and speaks of no object that is gone. What stands
behind an entity in use is there, and when no creation fails halfway and the deletions are confirmed, nothing
else is.
-/

namespace RmwMicroxrcedds
set_option autoImplicit false

variable {cfg : Config} {c : Nat}

/-- How many of the calls create an object of the kind. -/
def creationsIn (is : List Step) (k : ObjectKind) : Nat := is.countP fun i => i.call.objects.contains k

theorem creationsIn_cons (i : Step) (is : List Step) (k : ObjectKind) :
    creationsIn (i :: is) k = creationsIn is k + if k ∈ i.call.objects then 1 else 0 := by
  rw [creationsIn, List.countP_cons, creationsIn]
  simp

/-- A run inside the only context, with the agent in view. -/
structure InMirror (cfg : Config) (c : Nat) (s : State) : Prop where
  alone : Alone cfg c s
  ledger : Ledger cfg s.w.ent
  mirrored : Mirrored c s

theorem InMirror.step {s : State} (h : InMirror cfg c s) {i : Step} (named : ParticipantsNamed cfg)
    (inside : i.call.Inside = true) (safe : i.call.StaleSafe cfg s.w.ent) (room : Room c i.call.objects s) :
    InMirror cfg c (step cfg s i) ∧ Advances c i.call.objects s (step cfg s i) := by
  have alone := (h.alone.step inside).1
  revert alone
  rw [RmwMicroxrcedds.step, call]
  split
  · intro alone
    have wf : Wf cfg (s.enter i) := { h.alone.ready.wf with }
    have open_ : i.call.kind ≠ .shutdown := fun closed => by
      generalize i.call = call at closed inside
      cases call <;> simp [Call.kind, Call.Inside] at closed inside
    have mirrored : Mirrored c (s.enter i) := { h.mirrored with }
    have advances := perform_advances wf h.ledger h.alone.only inside ‹_› safe named room mirrored
    exact ⟨⟨alone, perform_keeps_ledger wf h.ledger open_ safe, advances.mirrored⟩,
      ⟨advances.mirrored, advances.counter⟩⟩
  · exact fun _ => ⟨h, .refl h.mirrored⟩

theorem InMirror.exec {s : State} (h : InMirror cfg c s) (named : ParticipantsNamed cfg) {is : List Step}
    (inside : ∀ i ∈ is, i.call.Inside = true)
    (safe : Runs.Always (RmwMicroxrcedds.step cfg) (fun s i => i.call.StaleSafe cfg s.w.ent) s is)
    (few : ∀ k, (s.w.ent.session.custom c).counter k + creationsIn is k < 65536) :
    InMirror cfg c (Runs.exec (RmwMicroxrcedds.step cfg) s is) := by
  induction is generalizing s with
  | nil => exact h
  | cons i is ih =>
    have room : Room c i.call.objects s := by
      intro k mem
      have bound := few k
      rw [creationsIn_cons, if_pos mem] at bound
      omega
    obtain ⟨next, advances⟩ := h.step named (inside i List.mem_cons_self) safe.1 room
    refine ih next (fun j mem => inside j (List.mem_cons_of_mem _ mem)) safe.2 fun k => ?_
    have bound := few k
    have drawn := advances.counter k
    rw [creationsIn_cons] at bound
    omega

/-- A context that has just been opened. -/
theorem opened_inMirror {env : InitEnvironment} {agent : List Answer} {ret : RmwRet}
    (opened : (call cfg State.zero ⟨.init env, agent⟩).1 = .opened ret (some c)) :
    InMirror cfg c (step cfg State.zero ⟨.init env, agent⟩) ∧
      ∀ k, ((step cfg State.zero ⟨.init env, agent⟩).w.ent.session.custom c).counter k ≤ 1 := by
  set start : Step := ⟨.init env, agent⟩
  obtain ⟨alone, got, -⟩ := opened_alone opened
  have wf : Wf cfg (State.zero.enter start) := { (ready_zero cfg).wf with }
  have ledger : Ledger cfg (step cfg State.zero start).w.ent :=
    perform_keeps_ledger (c := .init env) wf (ledger_zero cfg) (by simp [Call.kind]) trivial
  have empty : ∀ k, (step cfg State.zero start).w.ent.cards k = [] := by
    intro k
    by_cases hk : k = .topic
    · subst hk
      rw [List.eq_nil_iff_forall_not_mem]
      intro card mem
      obtain ⟨x, hx, -⟩ := Slots.mem_cards.1 mem
      exact ledger.topics.owned x hx (by rw [got.topics]; rfl)
    · rw [got.cards k hk]
      cases k <;> rfl
  have impl : (rmwInit cfg env (State.zero.enter start)).1.2 = some c := (Reply.opened.inj opened).2
  have opens : Triples.Hoare _ (rmwInit cfg env) _ := rmwInit_opened env
  have begun : Opened c (step cfg State.zero start) := (opens (State.zero.enter start) rfl).2 c impl
  obtain ⟨mirrored, one⟩ := begun.mirrored empty
  exact ⟨⟨alone, ledger, mirrored⟩, one⟩

/-- No release of a topic that a slot still shows does any harm, in the whole run. -/
def AlwaysStaleSafe (cfg : Config) (s : State) (is : List Step) : Prop :=
  Runs.Always (step cfg) (fun s i => i.call.StaleSafe cfg s.w.ent) s is

section Runs

variable {env : InitEnvironment} {agent : List Answer} {ret : RmwRet} {is : List Step}

theorem mirrored_of_run (named : ParticipantsNamed cfg)
    (opened : (call cfg State.zero ⟨.init env, agent⟩).1 = .opened ret (some c))
    (inside : ∀ i ∈ is, i.call.Inside = true)
    (safe : AlwaysStaleSafe cfg (step cfg State.zero ⟨.init env, agent⟩) is)
    (few : ∀ k, creationsIn is k < 65535) : Mirrored c (run cfg (⟨.init env, agent⟩ :: is)) := by
  obtain ⟨start, one⟩ := opened_inMirror opened
  refine (start.exec named inside safe fun k => ?_).mirrored
  have counter := one k
  have bound := few k
  omega

/-! ## Nothing else -/

theorem mem_objects_of_requests {s : State} {id : UxrObjectId} (here : id ∈ s.objects) :
    id ∈ agentObjects s.requests ∨ id ∈ s.graphObjects := by
  rw [State.objects, State.dialogue] at here
  rw [State.graphObjects]
  generalize s.requests = rs at here ⊢
  induction rs with
  | nil => exact absurd here List.not_mem_nil
  | cons r rs ih =>
    obtain ⟨request, b⟩ := r
    have old : id ∈ Registry.objects (rs.map fun r => (r.1.ask, r.2)) → id ∈ agentObjects rs ∨
        id ∈ ((request, b) :: rs).flatMap XrceRequest.graphIds := by
      intro mem
      rw [List.flatMap_cons]
      exact (ih mem).imp_right (List.mem_append_right _)
    cases request with
    | create id' p texts =>
      cases b with
      | false => exact old here
      | true =>
        rcases List.mem_append.1 here with new | mem
        · exact .inl (List.mem_singleton.1 new ▸ List.mem_cons_self)
        · exact (old mem).imp_left (List.mem_cons_of_mem _)
    | createGraph ids =>
      cases b with
      | false => exact old here
      | true =>
        rcases List.mem_append.1 here with new | mem
        · exact .inr (List.mem_append_left _ new)
        · exact old mem
    | cancelData id' => cases b <;> exact old here
    | deleteEntity id' =>
      cases b with
      | false => exact old here
      | true =>
        obtain ⟨mem, ne⟩ := List.mem_filter.1 here
        exact (old mem).imp_left fun mem => List.mem_filter.2 ⟨mem, ne⟩

theorem inBalance_of_run (reliable : 0 < cfg.entityCreationTimeout)
    (opened : (call cfg State.zero ⟨.init env, agent⟩).1 = .opened ret (some c))
    (inside : ∀ i ∈ is, i.call.Inside = true)
    (deleted : DeletionsConfirmed (run cfg (⟨.init env, agent⟩ :: is)))
    (balances : Runs.Always (step cfg) (Balances cfg) (step cfg State.zero ⟨.init env, agent⟩) is) :
    InBalance cfg c (run cfg (⟨.init env, agent⟩ :: is)) := by
  obtain ⟨start, -⟩ := opened_inMirror opened
  obtain ⟨-, got, -⟩ := opened_alone opened
  show InBalance cfg c (Runs.exec (step cfg) (step cfg State.zero ⟨.init env, agent⟩) is)
  apply Runs.invariant_exec (G := fun s i => (Balances cfg s i ∧ DeletionsConfirmed (step cfg s i)) ∧
    i.call.Inside = true)
  · exact fun s i h g => h.step g.2 g.1.1 g.1.2
  · refine ⟨start.alone, start.ledger, got.creationStream reliable, fun id mem => ?_⟩
    rw [got.agent] at mem
    cases mem
  · exact (balances.and (deletions_confirmed deleted)).and_mem inside

/-- **The agent mirrors the library**: when the creation stream is reliable, no creation fails halfway and the
deletions are confirmed, the agent has the objects of the entities in use, the entities of the graph, and no
others. -/
theorem agent_mirrors (named : ParticipantsNamed cfg) (reliable : 0 < cfg.entityCreationTimeout)
    (opened : (call cfg State.zero ⟨.init env, agent⟩).1 = .opened ret (some c))
    (inside : ∀ i ∈ is, i.call.Inside = true)
    (deleted : DeletionsConfirmed (run cfg (⟨.init env, agent⟩ :: is)))
    (balances : Runs.Always (step cfg) (Balances cfg) (step cfg State.zero ⟨.init env, agent⟩) is)
    (few : ∀ k, creationsIn is k < 65535) (id : UxrObjectId) :
    let s := run cfg (⟨.init env, agent⟩ :: is)
    id ∈ s.objects ↔ id ∈ s.graphObjects ∨ ∃ k, ∃ card ∈ s.w.ent.cards k, card.id = id := by
  intro s
  have safe : AlwaysStaleSafe cfg (step cfg State.zero ⟨.init env, agent⟩) is := by
    apply Runs.always_iff.2
    intro pre i post split
    exact (Runs.always_iff.1 balances pre i post split).1
  have mirrored : Mirrored c s := mirrored_of_run named opened inside safe few
  have balanced : InBalance cfg c s := inBalance_of_run reliable opened inside deleted balances
  constructor
  · intro here
    rcases mem_objects_of_requests here with plain | graph
    · obtain ⟨k, card, held, same, -⟩ := balanced.backed id plain
      exact .inr ⟨k, card, held, same⟩
    · exact .inl graph
  · rintro (graph | ⟨k, card, held, rfl⟩)
    · exact (mirrored.graph id graph).1
    · exact mirrored.known k card held

end Runs

namespace Small

theorem participantsNamed : ParticipantsNamed config := fun name namespace_ => by
  simp [participantText, config]

/-- Two nodes, a publisher and a service, of which the first node goes. -/
def mirroredRun : List Step := [createNode 1, createPublisher typeSupport, createServiceOf 1, createNode 1,
  destroyNode]

theorem mirroredRun_few (k : ObjectKind) : creationsIn mirroredRun k < 65535 :=
  Nat.lt_of_le_of_lt List.countP_le_length (by decide)

theorem mirroredRun_balances :
    Runs.Always (step config) (Balances config) (step config State.zero (init 0)) mirroredRun :=
  ⟨⟨trivial, id⟩, ⟨fun _ => by decide +kernel, fun h => h.2.2.2.2.2.2.2 (by decide)⟩, ⟨trivial, id⟩,
    ⟨trivial, id⟩, ⟨trivial, id⟩, trivial⟩

theorem mirroredRun_safe :
    AlwaysStaleSafe config (step config State.zero (init 0)) mirroredRun :=
  ⟨trivial, fun _ => by decide +kernel, trivial, trivial, trivial, trivial⟩

theorem mirroredRun_opened : (call config State.zero (init 0)).1 = .opened .ok (some 1) := by decide

end Small

/-- The second node is what is left. -/
theorem agent_mirrors_mirroredRun :
    let s := run Small.config (Small.init 0 :: Small.mirroredRun)
    s.objects = [⟨1, .participant⟩] ∧ ∀ id, id ∈ s.objects ↔ id ∈ s.graphObjects ∨
      ∃ k, ∃ card ∈ s.w.ent.cards k, card.id = id :=
  ⟨by decide +kernel, agent_mirrors Small.participantsNamed (by decide) Small.mirroredRun_opened (by decide)
    (by decide +kernel) Small.mirroredRun_balances Small.mirroredRun_few⟩

end RmwMicroxrcedds
