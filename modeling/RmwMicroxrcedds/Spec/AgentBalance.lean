import RmwMicroxrcedds.Spec.FailingCreations
import RmwMicroxrcedds.Spec.ObjectIds

/-!
# The balance of the agent's objects

A publisher or subscription is three objects of the agent, created one after the other. When the
second or third is not confirmed, the create function gives its elements back but leaves the agent
with what it has confirmed. Runs in which that does not happen end with an empty agent.
-/

namespace RmwMicroxrcedds
set_option autoImplicit false

variable {cfg : Config} {c : Nat}

/-- Nothing that a create function has returned is in use. Where participants have no text,
`rmw_create_node` returns nothing and keeps its element. -/
structure AllDestroyed (cfg : Config) (s : State) : Prop where
  publisher : s.w.ent.publisher.elements = []
  subscription : s.w.ent.subscription.elements = []
  service : s.w.ent.service.elements = []
  client : s.w.ent.client.elements = []
  node : s.w.ent.node.elements = [] ∨ ∀ name namespace_, participantText cfg name namespace_ = none

/-- Every deletion that was asked for has been confirmed. -/
def DeletionsConfirmed (s : State) : Prop := ∀ r ∈ s.requests, r.1.deletes = true → r.2 = true

instance (s : State) : Decidable (DeletionsConfirmed s) :=
  inferInstanceAs (Decidable (∀ r ∈ s.requests, _))

/-- The call strands no object: no creation fails after its topic has been confirmed, and none that
gives up early releases a topic that is in use or heads the list of free topics. -/
def Balances (cfg : Config) (s : State) (i : Step) : Prop :=
  i.call.StaleSafe cfg s.w.ent ∧ ¬ i.call.Strands cfg s.w.ent i.agent

/-- When everything is destroyed, nothing backs an object of the agent. -/
theorem Backed.empty {s : State} (backed : Backed cfg s) (ledger : Ledger cfg s.w.ent)
    (gone : AllDestroyed cfg s) : agentObjects s.requests = [] := by
  have topics : s.w.ent.topic.elements = [] := by
    have sides := ledger.references
    rw [Entities.references, gone.publisher, gone.subscription] at sides
    exact List.map_eq_nil_iff.1 sides.nil_eq.symm
  rw [List.eq_nil_iff_forall_not_mem]
  intro id mem
  obtain ⟨k, card, held, -, text⟩ := backed id mem
  cases k <;> simp only [Entities.cards, Slots.cards, gone.publisher, gone.subscription,
    gone.service, gone.client, topics, List.map_nil, List.not_mem_nil] at held
  rcases gone.node with none | none
  · simp [none] at held
  · obtain ⟨name, namespace_, named⟩ := text rfl
    exact named (none name namespace_)

/-- The invariant of a run inside a context. -/
structure InBalance (cfg : Config) (c : Nat) (s : State) : Prop where
  alone : Alone cfg c s
  ledger : Ledger cfg s.w.ent
  reliable : s.Reliable c
  backed : Backed cfg s

theorem InBalance.step {s : State} (h : InBalance cfg c s) {i : Step} (inside : i.call.Inside = true)
    (balances : Balances cfg s i) (deleted : DeletionsConfirmed (step cfg s i)) :
    InBalance cfg c (step cfg s i) := by
  have alone := (h.alone.step inside).1
  revert alone deleted
  rw [RmwMicroxrcedds.step, call]
  split
  · intro deleted alone
    have wf : Wf cfg (s.enter i) := { h.alone.ready.wf with }
    have open_ : i.call.kind ≠ .shutdown := fun closed => by
      generalize i.call = call at closed inside
      cases call <;> simp [Call.kind, Call.Inside] at closed inside
    exact ⟨alone, perform_keeps_ledger wf h.ledger open_ balances.1,
      (perform_issues wf h.alone.only inside ‹_›).reliable c h.reliable,
      perform_backed wf h.ledger h.alone.only h.reliable inside ‹_› balances.1 balances.2
        (fun id b mem => deleted _ mem rfl) h.backed⟩
  · exact fun _ _ => h

/-- A deletion confirmed in the end was confirmed at once. -/
theorem deletions_confirmed {start : Step} {is : List Step}
    (deleted : DeletionsConfirmed (run cfg (start :: is))) :
    Runs.Always (step cfg) (fun s i => DeletionsConfirmed (step cfg s i)) (step cfg State.zero start)
      is := by
  rw [Runs.always_iff]
  rintro pre i post rfl r mem
  refine deleted r ?_
  have suffix := run_trace_suffix cfg (start :: pre ++ [i]) post
  have reached : step cfg (Runs.exec (step cfg) (step cfg State.zero start) pre) i =
      run cfg (start :: pre ++ [i]) := (run_concat cfg (start :: pre) i).symm
  rw [reached] at mem
  have whole : start :: pre ++ [i] ++ post = start :: (pre ++ i :: post) := by simp
  rw [whole] at suffix
  exact (suffix.filterMap _).subset mem

/-- **The agent ends empty**: in every run inside a context with a reliable creation stream whose
calls strand nothing and whose deletions are confirmed, the agent has no object left when everything
returned has been destroyed. -/
theorem agent_ends_empty {env : InitEnvironment} {agent : List Answer} {ret : RmwRet} {is : List Step}
    (reliable : 0 < cfg.entityCreationTimeout)
    (opened : (call cfg State.zero ⟨.init env, agent⟩).1 = .opened ret (some c))
    (inside : ∀ i ∈ is, i.call.Inside = true)
    (deleted : DeletionsConfirmed (run cfg (⟨.init env, agent⟩ :: is)))
    (balances : Runs.Always (step cfg) (Balances cfg) (step cfg State.zero ⟨.init env, agent⟩) is)
    (gone : AllDestroyed cfg (run cfg (⟨.init env, agent⟩ :: is))) :
    agentObjects (run cfg (⟨.init env, agent⟩ :: is)).requests = [] := by
  obtain ⟨alone, got, -⟩ := opened_alone opened
  have wf : Wf cfg (State.zero.enter ⟨.init env, agent⟩) := { (ready_zero cfg).wf with }
  have start : InBalance cfg c (step cfg State.zero ⟨.init env, agent⟩) := by
    refine ⟨alone, perform_keeps_ledger (c := .init env) wf (ledger_zero cfg) (by simp [Call.kind]) trivial,
      got.creationStream reliable, fun id mem => ?_⟩
    rw [got.agent] at mem
    cases mem
  have allowed := balances.and (deletions_confirmed deleted)
  have end_ := Runs.invariant_exec (I := InBalance cfg c)
    (fun s i h g => h.step g.2 g.1.1 g.1.2) start (allowed.and_mem inside)
  exact end_.backed.empty end_.ledger gone

namespace Small

/-- A publisher of which the agent confirms the topic only. -/
def strandedPublisher : Step :=
  ⟨.createPublisher (some 1) (some typeSupport) (some ['t']) (some (profile 1 ⟨0, 0⟩)),
    [⟨[], true⟩, ⟨[], false⟩]⟩

def destroyNode : Step := ⟨.destroyNode (some 1), confirming⟩

end Small

/-- A publisher comes and goes with its node. -/
theorem agent_ends_empty_publisher :
    agentObjects (run Small.config [Small.init 0, Small.createNode 1,
      Small.createPublisher Small.typeSupport, Small.destroyNode]).requests = [] :=
  have opened : (call Small.config State.zero (Small.init 0)).1 = .opened .ok (some 1) := by decide
  agent_ends_empty (by decide) opened (by decide)
    (by decide +kernel)
    ⟨⟨trivial, id⟩, ⟨fun _ => by decide +kernel, fun h => h.2.2.2.2.2.2.2 (by decide)⟩,
      ⟨trivial, id⟩, trivial⟩
    ⟨by decide +kernel, by decide +kernel, by decide +kernel, by decide +kernel,
      .inl (by decide +kernel)⟩

/-- The topic of a publisher that was refused stays with the agent. -/
theorem agent_keeps_topic :
    let is := [Small.createNode 1, Small.strandedPublisher, Small.destroyNode]
    let s := run Small.config (Small.init 0 :: is)
    is.all (·.call.Inside) = true ∧ DeletionsConfirmed s ∧ AllDestroyed Small.config s ∧
      agentObjects s.requests = [⟨0, .topic⟩] :=
  ⟨by decide, by decide +kernel, ⟨by decide +kernel, by decide +kernel, by decide +kernel,
    by decide +kernel, .inl (by decide +kernel)⟩, by decide +kernel⟩

end RmwMicroxrcedds
