import RmwMicroxrcedds.Proof.Backing

/-!
# Pools under failing creations

Whatever fails on the way, a create function gives back what it took, with two exceptions. A
publisher or subscription that is refused before it has a topic of its own releases the topic that
its slot still shows from an earlier use. And `create_node` forgets its element when the reference of
the participant does not fit.
-/

namespace RmwMicroxrcedds
set_option autoImplicit false

open Triples

variable {cfg : Config}

/-- The calls that create and destroy entities, and the one that opens a context. -/
def Call.Manages : Call → Bool
  | .init _ | .createNode .. | .destroyNode _ | .createPublisher .. | .destroyPublisher ..
  | .createSubscription .. | .destroySubscription .. | .createService .. | .destroyService ..
  | .createClient .. | .destroyClient .. => true
  | _ => false

/-- The call takes none of the two exits that release a wrong element, or none. -/
def Call.Returns (cfg : Config) (e : Entities) : Call → Prop
  | .createPublisher node typeSupport topicName qosPolicies =>
    GivesUp cfg e node typeSupport topicName qosPolicies → Endpoint.publisher.StaleSafe e
  | .createSubscription node typeSupport topicName qosPolicies =>
    GivesUp cfg e node typeSupport topicName qosPolicies → Endpoint.subscription.StaleSafe e
  | .createNode _ name namespace_ => Forgets cfg name namespace_ → e.node.get.1 = none
  | _ => True

/-- The pools after a call. -/
structure PoolsKept (cfg : Config) (s : State) (i : Step) : Prop where
  topic : (step cfg s i).w.ent.topic.Ok cfg.maxTopicsInternal
  publisher : (step cfg s i).w.ent.publisher.Ok cfg.maxPublishers
  subscription : (step cfg s i).w.ent.subscription.Ok cfg.maxSubscriptions
  service : (step cfg s i).w.ent.service.Ok cfg.maxServices
  client : (step cfg s i).w.ent.client.Ok cfg.maxClients
  node : (step cfg s i).w.ent.node.Ok cfg.maxNodes
  /-- each topic in use has one endpoint in use -/
  references : ∀ x ∈ (step cfg s i).w.ent.topic.elements,
    (step cfg s i).w.ent.references.count (some x) = 1
  /-- a creation that fails leaves the elements in use as they were -/
  failed : (call cfg s i).1 = .handle none → SameInUse s.w.ent (step cfg s i).w.ent

theorem Ledger.count {e : Entities} (h : Ledger cfg e) {x : Nat} (hx : x ∈ e.topic.elements) :
    e.references.count (some x) = 1 := by
  rw [h.references.count_eq]
  refine List.count_eq_one_of_mem ?_ (List.mem_map_of_mem hx)
  exact h.topics.ok.nodup.map fun _ _ => Option.some.inj

theorem Call.Returns.staleSafe {e : Entities} {c : Call} (h : c.Returns cfg e) : c.StaleSafe cfg e := by
  cases c <;> first | exact h | trivial

/-- A call keeps the ledger, and gives everything back if it is a creation that fails. -/
theorem perform_ledger {s : State} (wf : Wf cfg s) (before : Ledger cfg s.w.ent) {c : Call}
    (manages : c.Manages = true) (returns : c.Returns cfg s.w.ent) :
    Ledger cfg (perform cfg c s).2.w.ent ∧
      ((perform cfg c s).1 = .handle none → SameInUse s.w.ent (perform cfg c s).2.w.ent) := by
  have open_ : c.kind ≠ .shutdown := by
    rintro closed
    cases c <;> simp [Call.kind, Call.Manages] at closed manages
  refine ⟨perform_keeps_ledger wf before open_ returns.staleSafe, fun failed => ?_⟩
  cases c with
  | createNode context name namespace_ =>
    exact (rmwCreateNode_ledger wf before (some context) name namespace_).2 returns
      (Reply.handle.inj failed)
  | createPublisher node typeSupport topicName qosPolicies =>
    exact (rmwCreatePublisher_ledger wf before _ _ _ _ returns).2 (Reply.handle.inj failed)
  | createSubscription node typeSupport topicName qosPolicies =>
    exact (rmwCreateSubscription_ledger wf before _ _ _ _ returns).2 (Reply.handle.inj failed)
  | createService node typeSupport serviceName qosPolicies requestId =>
    exact (rmwCreateService_kept wf before _ _ _ _ _).2 (Reply.handle.inj failed)
  | createClient node typeSupport serviceName qosPolicies requestId =>
    exact (rmwCreateClient_kept wf before _ _ _ _ _).2 (Reply.handle.inj failed)
  | init env => cases failed
  | destroyNode node => cases failed
  | destroyPublisher node publisher => cases failed
  | destroySubscription node subscription => cases failed
  | destroyService node service => cases failed
  | destroyClient node client => cases failed
  | _ => simp [Call.Manages] at manages

/-- One step of a run of such calls. -/
theorem step_ledger {s : State} (ready : Ready cfg s) (before : Ledger cfg s.w.ent) {i : Step}
    (manages : i.call.Manages = true) (returns : i.call.Returns cfg s.w.ent) :
    Ledger cfg (step cfg s i).w.ent ∧ PoolsKept cfg s i := by
  have after := (step_path ready i).2.wf
  have kept : Ledger cfg (step cfg s i).w.ent ∧
      ((call cfg s i).1 = .handle none → SameInUse s.w.ent (step cfg s i).w.ent) := by
    rw [step, call]
    split
    · have wf : Wf cfg (s.enter i) := { ready.wf with }
      exact perform_ledger wf before manages returns
    · exact ⟨before, fun h => by cases h⟩
  refine ⟨kept.1, ?_⟩
  exact
    { topic := kept.1.topics.ok
      publisher := after.publisher
      subscription := after.subscription
      service := after.service
      client := after.client
      node := after.node
      references := fun x hx => kept.1.count hx
      failed := kept.2 }

/-- **Pools survive failing creations**: in every run of calls that create and destroy entities and
take neither of the two exits, the pools stay proper, each topic in use has one endpoint, and a
creation that fails leaves the elements in use as they were. -/
theorem failing_creations_keep_pools (cfg : Config) (is : List Step)
    (manages : ∀ i ∈ is, i.call.Manages = true)
    (returns : Runs.Always (step cfg) (fun s i => i.call.Returns cfg s.w.ent) State.zero is) :
    Runs.Always (step cfg) (PoolsKept cfg) State.zero is :=
  Runs.always_of_invariant (I := fun s => Ready cfg s ∧ Ledger cfg s.w.ent)
    (fun _ i h g => ⟨(step_path h.1 i).2, (step_ledger h.1 h.2 g.2 g.1).1⟩)
    (fun _ _ h g => (step_ledger h.1 h.2 g.2 g.1).2)
    ⟨ready_zero cfg, ledger_zero cfg⟩ (returns.and_mem manages)

namespace Small

def destroyPublisher : Step := ⟨.destroyPublisher (some 1) (some 1), confirming⟩

/-- A publisher comes and goes, and a subscription takes over its topic. -/
def recycled : List Step :=
  [init 0, createNode 1, createPublisher typeSupport, destroyPublisher,
    createSubscription 1 (profile 1 ⟨0, 0⟩)]

end Small

/-- A creation without type support fails in a slot that shows no topic. -/
theorem failing_creation_keeps_pools :
    Runs.Always (step Small.config) (PoolsKept Small.config) State.zero
      [Small.init 0, Small.createNode 1, Small.createPublisher .undefined,
        Small.createPublisher Small.typeSupport] :=
  failing_creations_keep_pools _ _ (by decide)
    ⟨trivial, fun ⟨_, _, _, _, _, _, _, _, text⟩ => by simp [participantText, Small.config] at text,
      fun _ => by decide +kernel, fun _ => by decide +kernel, trivial⟩

/-- A creation without type support in the slot of the old publisher releases the topic of the
subscription. -/
theorem failing_creation_releases_topic :
    let s := run Small.config Small.recycled
    let i := Small.createPublisher .undefined
    s.w.ent.topic.elements = [1] ∧ s.w.ent.references = [some 1] ∧
      (call Small.config s i).1 = .handle none ∧ (step Small.config s i).w.ent.topic.elements = [] ∧
      ¬ Runs.Always (step Small.config) (PoolsKept Small.config) State.zero (Small.recycled ++ [i]) := by
  intro s i
  have before : s.w.ent.topic.elements = [1] := by decide +kernel
  have failed : (call Small.config s i).1 = .handle none := by decide +kernel
  have after : (step Small.config s i).w.ent.topic.elements = [] := by decide +kernel
  refine ⟨before, by decide +kernel, failed, after, fun kept => ?_⟩
  have last : PoolsKept Small.config s i := Runs.always_iff.1 kept Small.recycled i [] rfl
  have same := (last.failed failed).topic
  rw [after, before] at same
  cases same

end RmwMicroxrcedds
